import Fanout.Proofs.Broker.Exclusion
import Mathlib.Data.List.Find

namespace Fanout

inductive LockEvent where
  | come (key : StreamKey)
  | go (guard : Nat)
deriving DecidableEq

namespace KeyLocks

variable {k : KeyLocks} {key : StreamKey} {id gate : Nat} {g h : Guard}

def step (k : KeyLocks) : LockEvent → KeyLocks
  | .come key => (k.enter key).1
  | .go guard => k.leave guard

def after (k : KeyLocks) (events : List LockEvent) : KeyLocks := events.foldl step k

@[simp] theorem after_nil (k : KeyLocks) : k.after [] = k := rfl

@[simp] theorem after_cons (k : KeyLocks) (e : LockEvent) (events : List LockEvent) :
    k.after (e :: events) = (k.step e).after events := rfl

/-- The entries of the map lead to gates of their own, and somebody stands at each. -/
structure WellFormed (k : KeyLocks) : Prop where
  valid : k.Valid
  keys : (k.map.map (·.1)).Nodup
  gates : (k.map.map (·.2)).Nodup
  made : ∀ e ∈ k.map, e.2 < k.nextGate
  used : ∀ e ∈ k.map, ∃ g ∈ k.guards, g.key = e.1

theorem gateFor_cases (k : KeyLocks) (key : StreamKey) :
    (∃ gate, k.gate? key = some gate ∧ k.gateFor key = (k, gate)) ∨
      k.gate? key = none ∧ k.gateFor key =
        ({ k with map := k.map ++ [(key, k.nextGate)], nextGate := k.nextGate + 1 },
          k.nextGate) := by
  cases known : k.gate? key with
  | some gate => exact .inl ⟨gate, rfl, by simp only [gateFor, known]⟩
  | none => exact .inr ⟨rfl, by simp only [gateFor, known]⟩

theorem enter_map : (k.enter key).1.map = (k.gateFor key).1.map := rfl

theorem enter_nextGate : (k.enter key).1.nextGate = (k.gateFor key).1.nextGate := rfl

theorem not_mem_of_gate?_eq_none (missing : k.gate? key = none) : ∀ e ∈ k.map, e.1 ≠ key := by
  intro e member
  simp only [gate?, Option.map_eq_none_iff, List.find?_eq_none] at missing
  simpa using missing e member

namespace WellFormed

theorem initial : ({} : KeyLocks).WellFormed :=
  ⟨.initial, List.nodup_nil, List.nodup_nil, by simp, by simp⟩

theorem gate?_eq_some_iff (t : k.WellFormed) : k.gate? key = some gate ↔ (key, gate) ∈ k.map := by
  unfold gate?
  rw [Option.map_eq_some_iff]
  constructor
  · rintro ⟨e, found, rfl⟩
    have there := (find?_key_eq_some_iff t.keys).mp found
    rw [← there.2]
    exact there.1
  · intro member
    exact ⟨(key, gate), (find?_key_eq_some_iff t.keys).mpr ⟨member, rfl⟩, rfl⟩

theorem mapped (t : k.WellFormed) (living : g ∈ k.guards) : (g.key, g.gate) ∈ k.map :=
  t.gate?_eq_some_iff.mp (t.valid.mapped g living)

theorem gate_eq_iff (t : k.WellFormed) (gin : g ∈ k.guards) (hin : h ∈ k.guards) :
    g.gate = h.gate ↔ g.key = h.key := by
  constructor
  · intro same
    have entry := List.inj_on_of_nodup_map t.gates (t.mapped gin) (t.mapped hin) same
    exact congrArg Prod.fst entry
  · intro same
    have entry := List.inj_on_of_nodup_map t.keys (t.mapped gin) (t.mapped hin) same
    exact congrArg Prod.snd entry

theorem enter (t : k.WellFormed) (key : StreamKey) : (k.enter key).1.WellFormed := by
  have newcomer : ∃ g ∈ (k.enter key).1.guards, g.key = key := by
    rw [enter_guards]
    exact ⟨_, List.mem_append_right _ (List.mem_singleton_self _), rfl⟩
  have stays : ∀ e ∈ k.map, ∃ g ∈ (k.enter key).1.guards, g.key = e.1 := by
    intro e member
    obtain ⟨g, living, same⟩ := t.used e member
    rw [enter_guards]
    exact ⟨g, List.mem_append_left _ living, same⟩
  rcases gateFor_cases k key with ⟨gate, known, same⟩ | ⟨missing, made⟩
  -- the key has its entry already
  · have map : (k.enter key).1.map = k.map := by rw [enter_map, same]
    have next : (k.enter key).1.nextGate = k.nextGate := by rw [enter_nextGate, same]
    constructor
    · exact t.valid.enter key
    · rw [map]
      exact t.keys
    · rw [map]
      exact t.gates
    · rw [map, next]
      exact t.made
    · rw [map]
      exact stays
  -- the key gets one, which leads to a gate that no other entry leads to
  · have map : (k.enter key).1.map = k.map ++ [(key, k.nextGate)] := by rw [enter_map, made]
    have next : (k.enter key).1.nextGate = k.nextGate + 1 := by rw [enter_nextGate, made]
    have fresh := not_mem_of_gate?_eq_none missing
    constructor
    · exact t.valid.enter key
    · rw [map, List.map_append, List.nodup_append]
      refine ⟨t.keys, by simp, ?_⟩
      simp only [List.mem_map, List.map_cons, List.map_nil, List.mem_singleton]
      rintro _ ⟨e, member, rfl⟩ _ rfl
      exact fresh e member
    · rw [map, List.map_append, List.nodup_append]
      refine ⟨t.gates, by simp, ?_⟩
      simp only [List.mem_map, List.map_cons, List.map_nil, List.mem_singleton]
      rintro _ ⟨e, member, rfl⟩ _ rfl
      exact Nat.ne_of_lt (t.made e member)
    · rw [map, next]
      intro e member
      rcases List.mem_append.mp member with old | new
      · exact Nat.lt_succ_of_lt (t.made e old)
      · rw [List.mem_singleton.mp new]
        exact Nat.lt_succ_self _
    · rw [map]
      intro e member
      rcases List.mem_append.mp member with old | new
      · exact stays e old
      · rw [List.mem_singleton.mp new]
        exact newcomer

theorem countP_gate (t : k.WellFormed) (living : g ∈ k.guards) :
    k.map.countP (·.2 == g.gate) = 1 := by
  have once := List.count_eq_one_of_mem t.gates (List.mem_map_of_mem (f := (·.2)) (t.mapped living))
  rw [List.count, List.countP_map] at once
  exact once

theorem references_iff (t : k.WellFormed) (living : g ∈ k.guards) :
    ({ k with guards := k.guards.filter (·.id != g.id) } : KeyLocks).references g.gate + 1 = 2 ↔
      ∀ h ∈ k.guards, h.key = g.key → h.id = g.id := by
  have alone : (k.guards.filter (·.id != g.id)).countP (·.gate == g.gate) = 0 ↔
      ∀ h ∈ k.guards, h.key = g.key → h.id = g.id := by
    rw [List.countP_eq_zero]
    constructor
    · intro nobody h hin same
      by_contra differs
      have other : h ∈ k.guards.filter (·.id != g.id) :=
        List.mem_filter.mpr ⟨hin, by simpa using differs⟩
      exact nobody h other (by simpa using (t.gate_eq_iff hin living).mpr same)
    · intro only h member atGate
      obtain ⟨hin, differs⟩ := List.mem_filter.mp member
      have same := (t.gate_eq_iff hin living).mp (by simpa using atGate)
      simp [only h hin same] at differs
  rw [← alone, references, t.countP_gate living]
  dsimp only
  omega

theorem leave_map (t : k.WellFormed) (living : g ∈ k.guards) :
    (∃ h ∈ k.guards, h.id ≠ g.id ∧ h.key = g.key) ∧ (k.leave g.id).map = k.map ∨
      (∀ h ∈ k.guards, h.key = g.key → h.id = g.id) ∧
        (k.leave g.id).map = k.map.filter (·.1 != g.key) := by
  have found : k.guard? g.id = some g := (guard?_eq_some_iff t.valid).mpr ⟨living, rfl⟩
  have entry : k.gate? g.key = some g.gate := t.valid.mapped g living
  have last := t.references_iff living
  by_cases only : ∀ h ∈ k.guards, h.key = g.key → h.id = g.id
  · right
    refine ⟨only, ?_⟩
    simp only [KeyLocks.leave, found]
    rw [if_pos ⟨last.mpr only, entry⟩]
  · left
    have more : ¬ _ := mt last.mp only
    simp only [not_forall] at only
    obtain ⟨h, hin, same, differs⟩ := only
    refine ⟨⟨h, hin, differs, same⟩, ?_⟩
    simp only [KeyLocks.leave, found]
    rw [if_neg fun both => more both.1]

theorem leave_nextGate (k : KeyLocks) (id : Nat) : (k.leave id).nextGate = k.nextGate := by
  unfold KeyLocks.leave
  split
  · rfl
  · dsimp only
    split <;> rfl

theorem leave_map_sublist (k : KeyLocks) (id : Nat) : (k.leave id).map.Sublist k.map := by
  unfold KeyLocks.leave
  split
  · exact List.Sublist.refl _
  · dsimp only
    split
    · exact List.filter_sublist
    · exact List.Sublist.refl _

theorem leave (t : k.WellFormed) (id : Nat) : (k.leave id).WellFormed := by
  have sub := leave_map_sublist k id
  constructor
  · exact t.valid.leave id
  · exact t.keys.sublist (sub.map _)
  · exact t.gates.sublist (sub.map _)
  · rw [leave_nextGate]
    intro e member
    exact t.made e (sub.subset member)
  · intro e member
    obtain ⟨g, living, same⟩ := t.used e (sub.subset member)
    rw [leave_guards]
    by_cases going : g.id = id
    · -- the last guard of a key takes the entry with it, so there is another one
      subst going
      rcases t.leave_map living with ⟨⟨h, hin, differs, alike⟩, -⟩ | ⟨-, gone⟩
      · exact ⟨h, List.mem_filter.mpr ⟨hin, by simpa using differs⟩, alike.trans same⟩
      · rw [gone, List.mem_filter] at member
        simp [same] at member
    · exact ⟨g, List.mem_filter.mpr ⟨living, by simpa using going⟩, same⟩

theorem step (t : k.WellFormed) (e : LockEvent) : (k.step e).WellFormed := by
  cases e with
  | come key => exact t.enter key
  | go guard => exact t.leave guard

theorem after (t : k.WellFormed) (events : List LockEvent) : (k.after events).WellFormed := by
  induction events generalizing k with
  | nil => exact t
  | cons e rest ih => exact ih (t.step e)

theorem behind (t : k.WellFormed) (living : g ∈ k.guards) (waits : k.holds g.id = false) :
    ∃ h ∈ k.guards, h.id ≠ g.id ∧ h.key = g.key ∧ k.holds h.id = true := by
  cases first : k.guards.find? (·.gate == g.gate) with
  | none =>
    have nobody := List.find?_eq_none.mp first g living
    simp at nobody
  | some h =>
    -- whoever stands first at the gate has the lock
    have hin := List.mem_of_find?_eq_some first
    have atGate : h.gate = g.gate := by simpa using List.find?_some first
    have held : k.holds h.id = true := by
      apply (holds_iff t.valid).mpr
      exact ⟨h, hin, rfl, by rw [atGate, first]⟩
    refine ⟨h, hin, ?_, (t.gate_eq_iff hin living).mp atGate, held⟩
    intro same
    rw [same, waits] at held
    cases held

theorem holds_iff_first (t : k.WellFormed) (living : g ∈ k.guards) :
    k.holds g.id = true ↔ k.guards.find? (·.key == g.key) = some g := by
  have alike : k.guards.find? (·.gate == g.gate) = k.guards.find? (·.key == g.key) := by
    apply List.find?_congr
    intro h hin
    rw [Bool.eq_iff_iff, beq_iff_eq, beq_iff_eq]
    exact t.gate_eq_iff hin living
  rw [holds_iff t.valid]
  constructor
  · rintro ⟨h, hin, same, first⟩
    cases List.inj_on_of_nodup_map t.valid.nodup hin living same
    rw [← alike]
    exact first
  · intro first
    exact ⟨g, living, rfl, alike.trans first⟩

theorem holds_of_first (t : k.WellFormed) (first : k.guards.find? (·.key == key) = some g) :
    k.holds g.id = true := by
  have same : g.key = key := by simpa using List.find?_some first
  rw [t.holds_iff_first (List.mem_of_find?_eq_some first), same]
  exact first

theorem gate?_isSome_iff (t : k.WellFormed) :
    (k.gate? key).isSome = true ↔ ∃ g ∈ k.guards, g.key = key := by
  constructor
  · intro known
    obtain ⟨gate, entry⟩ := Option.isSome_iff_exists.mp known
    exact t.used _ (t.gate?_eq_some_iff.mp entry)
  · rintro ⟨g, living, rfl⟩
    rw [t.valid.mapped g living]
    rfl

end WellFormed

/-- What can be relied on whoever has come and gone. -/
structure Orderly (k : KeyLocks) : Prop where
  exclusive : ∀ g ∈ k.guards, ∀ h ∈ k.guards, g.key = h.key →
    k.holds g.id = true → k.holds h.id = true → g = h
  /-- Who waits, waits for another guard of the key that has the lock. -/
  behind : ∀ g ∈ k.guards, k.holds g.id = false →
    ∃ h ∈ k.guards, h ≠ g ∧ h.key = g.key ∧ k.holds h.id = true
  /-- A call for a key without guards gets the lock at once. -/
  free : ∀ key, (∀ g ∈ k.guards, g.key ≠ key) → (k.enter key).1.holds (k.enter key).2 = true
  entries : ∀ key, (k.map.map (·.1)).count key = if ∃ g ∈ k.guards, g.key = key then 1 else 0
  shared : ∀ g ∈ k.guards, ∀ h ∈ k.guards, g.gate = h.gate ↔ g.key = h.key
  /-- As long as a guard lives, the entry of its key leads to the gate of the guard. -/
  lasting : ∀ later, ∀ g ∈ k.guards, g ∈ (k.after later).guards →
    k.gate? g.key = some g.gate ∧ (k.after later).gate? g.key = some g.gate
  first : ∀ g ∈ k.guards, k.holds g.id = true ↔ k.guards.find? (·.key == g.key) = some g
  comes : ∀ key, (∀ g ∈ k.guards, g.id ≠ (k.enter key).2) ∧
    ∃ gate, (k.enter key).1.guards = k.guards ++ [⟨(k.enter key).2, key, gate⟩]
  /-- A guard that is dropped, or with which nobody waits any more, is gone, and no other one is. -/
  goes : ∀ id, (k.leave id).guards = k.guards.filter (·.id != id)
  /-- Of the guards that are left for the key the first one has the lock then. -/
  passes : ∀ id, ∀ key g, (k.guards.filter (·.id != id)).find? (·.key == key) = some g →
    (k.leave id).holds g.id = true
  /-- The entry goes with the last guard of the key, and not before. -/
  emptied : ∀ g ∈ k.guards, (k.leave g.id).map =
    if ∃ h ∈ k.guards, h ≠ g ∧ h.key = g.key then k.map else k.map.filter (·.1 != g.key)

theorem WellFormed.orderly (t : k.WellFormed) : k.Orderly where
  exclusive g gin h hin same gheld hheld := by
    have id := t.valid.exclusive gin hin same gheld hheld
    exact List.inj_on_of_nodup_map t.valid.nodup gin hin id
  behind g living waits := by
    obtain ⟨h, hin, differs, same, held⟩ := t.behind living waits
    exact ⟨h, hin, fun eq => differs (congrArg Guard.id eq), same, held⟩
  free key nobody := by
    have next := t.enter key
    have mine : (⟨k.nextGuard, key, (k.gateFor key).2⟩ : Guard) ∈ (k.enter key).1.guards := by
      rw [enter_guards]
      exact List.mem_append_right _ (List.mem_singleton_self _)
    rw [enter_snd]
    by_contra waits
    obtain ⟨h, hin, differs, same, -⟩ := next.behind mine (by simpa using waits)
    rw [enter_guards, List.mem_append, List.mem_singleton] at hin
    rcases hin with old | rfl
    · exact nobody h old same
    · exact differs rfl
  entries key := by
    have known : (k.gate? key).isSome = true ↔ _ := t.gate?_isSome_iff
    split
    · rename_i living
      obtain ⟨gate, entry⟩ := Option.isSome_iff_exists.mp (known.mpr living)
      have member := List.mem_map_of_mem (f := (·.1)) (t.gate?_eq_some_iff.mp entry)
      exact List.count_eq_one_of_mem t.keys member
    · rename_i nobody
      apply List.count_eq_zero.mpr
      intro member
      obtain ⟨e, there, rfl⟩ := List.mem_map.mp member
      exact nobody (t.used e there)
  shared g gin h hin := t.gate_eq_iff gin hin
  lasting later g living lives :=
    ⟨t.valid.mapped g living, (t.after later).valid.mapped g lives⟩
  first g living := t.holds_iff_first living
  comes key := by
    rw [enter_snd]
    exact ⟨fun g living => Nat.ne_of_lt (t.valid.below g living), _, enter_guards⟩
  goes id := leave_guards
  passes id key g first := by
    apply (t.leave id).holds_of_first
    rw [leave_guards]
    exact first
  emptied g living := by
    have same (h : Guard) (hin : h ∈ k.guards) : h.id = g.id ↔ h = g :=
      ⟨List.inj_on_of_nodup_map t.valid.nodup hin living, congrArg Guard.id⟩
    rcases t.leave_map living with ⟨⟨h, hin, differs, alike⟩, stays⟩ | ⟨only, gone⟩
    · rw [stays, if_pos ⟨h, hin, fun eq => differs ((same h hin).mpr eq), alike⟩]
    · rw [gone, if_neg]
      rintro ⟨h, hin, differs, alike⟩
      exact differs ((same h hin).mp (only h hin alike))

theorem orderly_after (events : List LockEvent) : (({} : KeyLocks).after events).Orderly :=
  (WellFormed.initial.after events).orderly

/-- The second of three guards gives up waiting, and the third gets the lock from the first, whose
key keeps its entry until the third has gone too. -/
theorem orderly_given_up :
    let k := ({} : KeyLocks).after [.come ⟨"a"⟩, .come ⟨"a"⟩, .come ⟨"b"⟩, .come ⟨"a"⟩, .go 1]
    k.guards.map (k.holds ·.id) = [true, true, false] ∧
      (k.leave 0).holds 3 = true ∧ (k.leave 0).map = k.map ∧
      ((k.leave 0).leave 3).map = k.map.filter (·.1 != ⟨"a"⟩) := by
  intro k
  have orderly := orderly_after [.come ⟨"a"⟩, .come ⟨"a"⟩, .come ⟨"b"⟩, .come ⟨"a"⟩, .go 1]
  have later := orderly_after [.come ⟨"a"⟩, .come ⟨"a"⟩, .come ⟨"b"⟩, .come ⟨"a"⟩, .go 1, .go 0]
  have stays := orderly.emptied ⟨0, ⟨"a"⟩, 0⟩ (by decide)
  have empties := later.emptied ⟨3, ⟨"a"⟩, 0⟩ (by decide)
  rw [if_pos (by decide)] at stays
  rw [if_neg (by decide)] at empties
  exact ⟨by decide, orderly.passes 0 ⟨"a"⟩ ⟨3, ⟨"a"⟩, 0⟩ (by decide), stays,
    empties.trans (congrArg (List.filter _) stays)⟩

end KeyLocks

end Fanout
