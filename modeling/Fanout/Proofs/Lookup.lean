import Mathlib.Algebra.GroupWithZero.Nat
import Mathlib.Data.List.Forall2
import Mathlib.Data.List.Nodup

namespace Fanout

variable {α κ : Type}

theorem place_eq_of_key {key : α → κ} {xs : List α} (distinct : (xs.map key).Nodup) {i j : Nat}
    {x y : α} (hi : xs[i]? = some x) (hj : xs[j]? = some y) (same : key x = key y) : i = j := by
  have small : i < (xs.map key).length := by
    rw [List.length_map]
    exact (List.getElem?_eq_some_iff.mp hi).1
  refine (List.getElem?_inj small distinct).mp ?_
  rw [List.getElem?_map, List.getElem?_map, hi, hj, Option.map_some, Option.map_some, same]

theorem getElem?_modify_cases {f : α → α} {xs : List α} {i j : Nat} {y : α}
    (new : (xs.modify i f)[j]? = some y) :
    (∃ x, i = j ∧ xs[j]? = some x ∧ y = f x) ∨ i ≠ j ∧ xs[j]? = some y := by
  by_cases same : i = j
  · subst same
    rw [List.getElem?_modify_eq] at new
    obtain ⟨x, old, rfl⟩ := Option.map_eq_some_iff.mp new
    exact .inl ⟨x, rfl, old, rfl⟩
  · exact .inr ⟨same, by simpa [same] using new⟩

theorem mem_modify {f : α → α} {xs : List α} {i : Nat} {y : α} (member : y ∈ xs.modify i f) :
    ∃ x ∈ xs, y = x ∨ xs[i]? = some x ∧ y = f x := by
  obtain ⟨k, there⟩ := List.mem_iff_getElem?.mp member
  rcases getElem?_modify_cases there with ⟨x, rfl, here, rfl⟩ | ⟨-, here⟩
  · exact ⟨x, List.mem_of_getElem? here, .inr ⟨here, rfl⟩⟩
  · exact ⟨y, List.mem_of_getElem? here, .inl rfl⟩

theorem map_modify_same {β : Type} {f : α → α} {g : α → β} (same : ∀ x, g (f x) = g x)
    (xs : List α) (i : Nat) : (xs.modify i f).map g = xs.map g := by
  refine List.ext_getElem? fun j => ?_
  rw [List.getElem?_map, List.getElem?_map, List.getElem?_modify]
  cases xs[j]? with
  | none => rfl
  | some x =>
    by_cases here : i = j
    · simp [here, same]
    · simp [here]

theorem modify_congr {f g : α → α} {xs : List α} {i : Nat} {x : α}
    (here : xs[i]? = some x) (same : f x = g x) : xs.modify i f = xs.modify i g := by
  refine List.ext_getElem? fun j => ?_
  by_cases there : i = j
  · subst there
    simp [here, same]
  · simp [there]

theorem modify_self {f : α → α} {xs : List α} {i : Nat} {x : α} (here : xs[i]? = some x)
    (same : f x = x) : xs.modify i f = xs :=
  (modify_congr (g := id) here same).trans (List.modify_id i xs)

theorem overwrite {f g : α → α} (xs : List α) (i : Nat) (hides : ∀ x, g (f x) = g x) :
    xs.modify i g = (xs.modify i f).modify i g := by
  rw [List.modify_modify_eq]
  exact congrArg (xs.modify i) (funext fun x => (hides x).symm)

theorem sum_map_modify {f : α → α} {xs : List α} {i : Nat} {x : α} (here : xs[i]? = some x)
    (g : α → Nat) : ((xs.modify i f).map g).sum + g x = (xs.map g).sum + g (f x) := by
  induction xs generalizing i with
  | nil => cases here
  | cons y ys ih =>
    cases i with
    | zero =>
      cases here
      simp
      omega
    | succ i =>
      have rest := ih (by simpa using here)
      simp
      omega

theorem flatMap_eraseIdx {β : Type} {f : α → List β} {x : α} (empty : f x = []) {xs : List α}
    {i : Nat} (here : xs[i]? = some x) : (xs.eraseIdx i).flatMap f = xs.flatMap f := by
  induction xs generalizing i with
  | nil => rfl
  | cons y rest ih =>
    cases i with
    | zero =>
      obtain rfl : y = x := by simpa using here
      simp [empty]
    | succ i =>
      have here : rest[i]? = some x := by simpa using here
      simp [ih here]

theorem forall₂_modify {R : κ → α → Prop} {f : α → α} {ys : List κ} {xs : List α} {i : Nat} {x : α}
    (h : List.Forall₂ R ys xs) (here : xs[i]? = some x) (keeps : ∀ y, R y x → R y (f x)) :
    List.Forall₂ R ys (xs.modify i f) := by
  induction h generalizing i with
  | nil => cases here
  | cons first rest ih =>
    cases i with
    | zero =>
      cases here
      exact .cons (keeps _ first) rest
    | succ i => exact .cons first (ih (by simpa using here))

theorem getElem?_append_cases {xs : List α} {x y : α} {j : Nat}
    (new : (xs ++ [x])[j]? = some y) : xs[j]? = some y ∨ j = xs.length ∧ y = x := by
  rcases Nat.lt_trichotomy j xs.length with small | same | large
  · exact .inl (by rwa [List.getElem?_append_left small] at new)
  · subst same
    exact .inr ⟨rfl, by simpa using new.symm⟩
  · rw [List.getElem?_eq_none_iff.mpr (by simp; omega)] at new
    cases new

theorem find?_key_eq_some_iff [BEq κ] [LawfulBEq κ] {key : α → κ} {xs : List α}
    (distinct : (xs.map key).Nodup) {k : κ} {x : α} :
    xs.find? (key · == k) = some x ↔ x ∈ xs ∧ key x = k := by
  constructor
  · intro found
    exact ⟨List.mem_of_find?_eq_some found, by simpa using List.find?_some found⟩
  · rintro ⟨member, rfl⟩
    cases found : xs.find? (key · == key x) with
    | none =>
      rw [List.find?_eq_none] at found
      exact absurd (BEq.rfl) (found x member)
    | some y =>
      have same : key y = key x := by simpa using List.find?_some found
      rw [List.inj_on_of_nodup_map distinct (List.mem_of_find?_eq_some found) member same]

end Fanout
