import Fanout.Broker.KeyLocks
import Fanout.Proofs.Lookup
import Mathlib.Logic.Function.Basic

namespace Fanout

namespace KeyLocks

variable {k : KeyLocks} {key : StreamKey} {id other : Nat}

/-- Living guards have numbers of their own, and guards of one key stand at one gate. -/
structure Valid (k : KeyLocks) : Prop where
  below : ∀ g ∈ k.guards, g.id < k.nextGuard
  nodup : (k.guards.map (·.id)).Nodup
  mapped : ∀ g ∈ k.guards, k.gate? g.key = some g.gate

theorem Valid.initial : ({} : KeyLocks).Valid := ⟨by simp, by simp, by simp⟩

theorem gateFor_guards : (k.gateFor key).1.guards = k.guards := by
  unfold gateFor
  split <;> rfl

theorem gateFor_nextGuard : (k.gateFor key).1.nextGuard = k.nextGuard := by
  unfold gateFor
  split <;> rfl

theorem gate?_gateFor : (k.gateFor key).1.gate? key = some (k.gateFor key).2 := by
  unfold gateFor
  split
  · assumption
  · rename_i missing
    simp only [gate?, Option.map_eq_none_iff] at missing
    simp [gate?, List.find?_append, missing]

theorem gate?_gateFor_of_some {key' : StreamKey} {gate : Nat} (h : k.gate? key' = some gate) :
    (k.gateFor key).1.gate? key' = some gate := by
  unfold gateFor
  split
  · exact h
  · simp only [gate?, Option.map_eq_some_iff] at h
    obtain ⟨entry, found, rfl⟩ := h
    simp [gate?, List.find?_append, found]

@[simp] theorem enter_snd : (k.enter key).2 = k.nextGuard := by
  simp [enter, gateFor_nextGuard]

theorem enter_guards :
    (k.enter key).1.guards = k.guards ++ [⟨k.nextGuard, key, (k.gateFor key).2⟩] := by
  simp [enter, gateFor_guards, gateFor_nextGuard]

theorem Valid.enter (v : k.Valid) (key : StreamKey) : (k.enter key).1.Valid where
  below g member := by
    have next : (k.enter key).1.nextGuard = k.nextGuard + 1 := by
      simp [KeyLocks.enter, gateFor_nextGuard]
    rw [next]
    rw [enter_guards, List.mem_append, List.mem_singleton] at member
    rcases member with old | rfl
    · exact Nat.lt_succ_of_lt (v.below g old)
    · exact Nat.lt_succ_self _
  nodup := by
    rw [enter_guards, List.map_append, List.nodup_append]
    refine ⟨v.nodup, by simp, ?_⟩
    simp only [List.mem_map, List.map_cons, List.map_nil, List.mem_singleton]
    rintro _ ⟨g, old, rfl⟩ _ rfl
    exact Nat.ne_of_lt (v.below g old)
  mapped g member := by
    rw [enter_guards, List.mem_append, List.mem_singleton] at member
    rcases member with old | rfl
    · exact gate?_gateFor_of_some (v.mapped g old)
    · exact gate?_gateFor

theorem guard?_eq_some_iff (v : k.Valid) {g : Guard} :
    k.guard? id = some g ↔ g ∈ k.guards ∧ g.id = id :=
  find?_key_eq_some_iff v.nodup

theorem holds_iff (v : k.Valid) :
    k.holds id = true ↔
      ∃ g ∈ k.guards, g.id = id ∧ k.guards.find? (·.gate == g.gate) = some g := by
  unfold holds
  constructor
  · intro held
    split at held
    · rename_i g found
      obtain ⟨member, rfl⟩ := (guard?_eq_some_iff v).mp found
      simp only [Option.any_eq_true, beq_iff_eq] at held
      obtain ⟨first, isFirst, same⟩ := held
      have alike := (guard?_eq_some_iff v).mpr ⟨List.mem_of_find?_eq_some isFirst, same⟩
      rw [(guard?_eq_some_iff v).mpr ⟨member, rfl⟩, Option.some.injEq] at alike
      subst alike
      exact ⟨g, member, rfl, isFirst⟩
    · cases held
  · rintro ⟨g, member, same, first⟩
    rw [(guard?_eq_some_iff v).mpr ⟨member, same⟩]
    simp [first, same]

theorem leave_guards : (k.leave id).guards = k.guards.filter (·.id != id) := by
  unfold leave
  split
  · rename_i missing
    refine (List.filter_eq_self.mpr ?_).symm
    simpa [guard?, List.find?_eq_none] using missing
  · dsimp only
    split <;> rfl

theorem leave_nextGuard : (k.leave id).nextGuard = k.nextGuard := by
  unfold leave
  split
  · rfl
  · dsimp only
    split <;> rfl

theorem Valid.gate?_leave (v : k.Valid) {h : Guard} (member : h ∈ k.guards) (stays : h.id ≠ id) :
    (k.leave id).gate? h.key = some h.gate := by
  have mapped := v.mapped h member
  unfold KeyLocks.leave
  split
  · exact mapped
  · rename_i g found
    dsimp only
    split
    · rename_i last
      obtain ⟨alone, entry⟩ := last
      have differs : h.key ≠ g.key := by
        intro same
        have atGate : h.gate = g.gate := by
          rw [same, show k.gate? g.key = some g.gate from entry, Option.some.injEq] at mapped
          exact mapped.symm
        have counted : 0 < (k.guards.filter (·.id != id)).countP (·.gate == g.gate) :=
          List.countP_pos_iff.mpr ⟨h, List.mem_filter.mpr ⟨member, by simpa using stays⟩,
            by simpa using atGate⟩
        simp only [references] at alone
        omega
      have kept : ∀ entry : StreamKey × Nat,
          ((entry.1 != g.key) && (entry.1 == h.key)) = (entry.1 == h.key) := by
        intro entry
        by_cases same : entry.1 = h.key <;> simp [same, differs]
      simp only [gate?, List.find?_filter, Bool.decide_and, Bool.decide_eq_true, kept]
      exact mapped
    · exact mapped

theorem Valid.leave (v : k.Valid) (id : Nat) : (k.leave id).Valid where
  below g member := by
    rw [leave_guards, List.mem_filter] at member
    rw [leave_nextGuard]
    exact v.below g member.1
  nodup := by
    rw [leave_guards]
    exact v.nodup.sublist (List.filter_sublist.map _)
  mapped g member := by
    rw [leave_guards, List.mem_filter] at member
    exact v.gate?_leave member.1 (by simpa using member.2)

theorem Valid.holds_enter (v : k.Valid) (held : k.holds id = true) :
    (k.enter key).1.holds id = true := by
  obtain ⟨g, member, same, first⟩ := (holds_iff v).mp held
  refine (holds_iff (v.enter key)).mpr ⟨g, ?_, same, ?_⟩
  · rw [enter_guards]
    exact List.mem_append_left _ member
  · rw [enter_guards, List.find?_append, first]
    rfl

theorem Valid.holds_leave (v : k.Valid) (held : k.holds id = true) (stays : id ≠ other) :
    (k.leave other).holds id = true := by
  obtain ⟨g, member, rfl, first⟩ := (holds_iff v).mp held
  refine (holds_iff (v.leave other)).mpr ⟨g, ?_, rfl, ?_⟩
  · rw [leave_guards]
    exact List.mem_filter.mpr ⟨member, by simpa using stays⟩
  · obtain ⟨here, front, back, split, before⟩ := List.find?_eq_some_iff_append.mp first
    have keeps : (g.id != other) = true := by simpa using stays
    rw [leave_guards, split, List.filter_append, List.filter_cons_of_pos (by exact keeps)]
    refine List.find?_eq_some_iff_append.mpr ⟨here, _, _, rfl, ?_⟩
    intro a early
    exact before a (List.mem_filter.mp early).1

theorem Valid.exclusive (v : k.Valid) {g h : Guard} (gin : g ∈ k.guards) (hin : h ∈ k.guards)
    (same : g.key = h.key) (gheld : k.holds g.id = true) (hheld : k.holds h.id = true) :
    g.id = h.id := by
  have gate : g.gate = h.gate := by
    have gmap := v.mapped g gin
    rw [same, v.mapped h hin, Option.some.injEq] at gmap
    exact gmap.symm
  obtain ⟨g', gin', gid, gfirst⟩ := (holds_iff v).mp gheld
  obtain ⟨h', hin', hid, hfirst⟩ := (holds_iff v).mp hheld
  have geq : g' = g := by
    have := (guard?_eq_some_iff v).mpr ⟨gin', gid⟩
    rw [(guard?_eq_some_iff v).mpr ⟨gin, rfl⟩, Option.some.injEq] at this
    exact this.symm
  have heq : h' = h := by
    have := (guard?_eq_some_iff v).mpr ⟨hin', hid⟩
    rw [(guard?_eq_some_iff v).mpr ⟨hin, rfl⟩, Option.some.injEq] at this
    exact this.symm
  subst geq heq
  rw [gate, hfirst, Option.some.injEq] at gfirst
  rw [gfirst]

theorem Valid.holds_head (v : k.Valid) {g : Guard} {rest : List Guard}
    (first : k.guards = g :: rest) : k.holds g.id = true :=
  (holds_iff v).mpr ⟨g, by simp [first], rfl, by simp [first]⟩

end KeyLocks

/-- A task's part in a lock: it has a guard, and may be known to have got in. -/
structure Stake where
  key : StreamKey
  guard : Nat
  inside : Bool

/-- Every stake is backed by a guard of its own, and whoever is inside has the lock. -/
structure Assigned {τ : Type} (k : KeyLocks) (stake? : τ → Option Stake) : Prop where
  valid : k.Valid
  alive : ∀ t s, stake? t = some s → ∃ g ∈ k.guards, g.id = s.guard ∧ g.key = s.key
  single : ∀ t u s s', stake? t = some s → stake? u = some s' → s.guard = s'.guard → t = u
  inside : ∀ t s, stake? t = some s → s.inside = true → k.holds s.guard = true

namespace Assigned

variable {τ : Type} [DecidableEq τ] {k : KeyLocks} {stake? : τ → Option Stake}

omit [DecidableEq τ] in
theorem initial : Assigned ({} : KeyLocks) fun _ : τ => none :=
  ⟨.initial, by simp, by simp, by simp⟩

theorem enter (h : Assigned k stake?) (t : τ) (key : StreamKey) :
    Assigned (k.enter key).1
      (Function.update stake? t (some ⟨key, (k.enter key).2, false⟩)) where
  valid := h.valid.enter key
  alive u s staked := by
    rw [KeyLocks.enter_guards]
    by_cases same : u = t
    · subst same
      simp only [Function.update_self, Option.some.injEq] at staked
      subst staked
      exact ⟨_, List.mem_append_right _ (List.mem_singleton_self _), by simp⟩
    · rw [Function.update_of_ne same] at staked
      obtain ⟨g, member, facts⟩ := h.alive u s staked
      exact ⟨g, List.mem_append_left _ member, facts⟩
  single u w s s' su sw same := by
    -- a fresh guard is above every living one
    have fresh : ∀ x r, stake? x = some r → r.guard ≠ k.nextGuard := by
      intro x r staked
      obtain ⟨g, member, id, -⟩ := h.alive x r staked
      rw [← id]
      exact Nat.ne_of_lt (h.valid.below g member)
    by_cases hu : u = t <;> by_cases hw : w = t
    · rw [hu, hw]
    · subst hu
      simp only [Function.update_self, Option.some.injEq] at su
      rw [Function.update_of_ne hw] at sw
      subst su
      exact absurd (same.symm.trans KeyLocks.enter_snd) (fresh w s' sw)
    · subst hw
      simp only [Function.update_self, Option.some.injEq] at sw
      rw [Function.update_of_ne hu] at su
      subst sw
      exact absurd (same.trans KeyLocks.enter_snd) (fresh u s su)
    · rw [Function.update_of_ne hu] at su
      rw [Function.update_of_ne hw] at sw
      exact h.single u w s s' su sw same
  inside u s staked inside := by
    by_cases same : u = t
    · subst same
      simp only [Function.update_self, Option.some.injEq] at staked
      subst staked
      cases inside
    · rw [Function.update_of_ne same] at staked
      exact h.valid.holds_enter (h.inside u s staked inside)

theorem leave (h : Assigned k stake?) {t : τ} {s : Stake} (staked : stake? t = some s) :
    Assigned (k.leave s.guard) (Function.update stake? t none) := by
  have other : ∀ u r, Function.update stake? t none u = some r →
      stake? u = some r ∧ r.guard ≠ s.guard := by
    intro u r hr
    by_cases same : u = t
    · subst same
      simp at hr
    · rw [Function.update_of_ne same] at hr
      exact ⟨hr, fun eq => same (h.single u t r s hr staked eq)⟩
  refine ⟨h.valid.leave _, ?_, ?_, ?_⟩
  · intro u r hr
    obtain ⟨old, differs⟩ := other u r hr
    obtain ⟨g, member, same, key⟩ := h.alive u r old
    refine ⟨g, ?_, same, key⟩
    rw [KeyLocks.leave_guards]
    exact List.mem_filter.mpr ⟨member, by simpa [same] using differs⟩
  · intro u w r r' hu hw same
    exact h.single u w r r' (other u r hu).1 (other w r' hw).1 same
  · intro u r hr inside
    obtain ⟨old, differs⟩ := other u r hr
    exact h.valid.holds_leave (h.inside u r old inside) differs

theorem getIn (h : Assigned k stake?) {t : τ} {s : Stake} (staked : stake? t = some s)
    (held : k.holds s.guard = true) :
    Assigned k (Function.update stake? t (some { s with inside := true })) := by
  have other : ∀ u r, Function.update stake? t (some { s with inside := true }) u = some r →
      ∃ r₀, stake? u = some r₀ ∧ r₀.guard = r.guard ∧ r₀.key = r.key ∧
        (r.inside = true → k.holds r.guard = true) := by
    intro u r hr
    by_cases same : u = t
    · subst same
      simp only [Function.update_self, Option.some.injEq] at hr
      subst hr
      exact ⟨s, staked, rfl, rfl, fun _ => held⟩
    · rw [Function.update_of_ne same] at hr
      exact ⟨r, hr, rfl, rfl, h.inside u r hr⟩
  refine ⟨h.valid, ?_, ?_, ?_⟩
  · intro u r hr
    obtain ⟨r₀, old, guard, key, -⟩ := other u r hr
    rw [← guard, ← key]
    exact h.alive u r₀ old
  · intro u w r r' hu hw same
    obtain ⟨r₀, uold, uguard, -, -⟩ := other u r hu
    obtain ⟨r₁, wold, wguard, -, -⟩ := other w r' hw
    exact h.single u w r₀ r₁ uold wold (by rw [uguard, wguard, same])
  · intro u r hr inside
    obtain ⟨_, -, -, -, holds⟩ := other u r hr
    exact holds inside

omit [DecidableEq τ] in
theorem exclusive (h : Assigned k stake?) {t u : τ} {s r : Stake} (ht : stake? t = some s)
    (hu : stake? u = some r) (same : s.key = r.key) (sheld : k.holds s.guard = true)
    (rheld : k.holds r.guard = true) : t = u := by
  obtain ⟨g, gin, gid, gkey⟩ := h.alive t s ht
  obtain ⟨g', gin', gid', gkey'⟩ := h.alive u r hu
  refine h.single t u s r ht hu ?_
  rw [← gid, ← gid']
  exact h.valid.exclusive gin gin' (by rw [gkey, gkey', same]) (by rw [gid, sheld])
    (by rw [gid', rheld])

end Assigned

end Fanout
