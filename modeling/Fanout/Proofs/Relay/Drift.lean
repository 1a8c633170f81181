import Fanout.Proofs.Relay.Roster

namespace Fanout.Roster

variable {s s' s'' : Roster}

structure Later (s s' : Roster) : Prop where
  key : s'.key = s.key
  closed : s.closed = true → s'.closed = true
  nobody : s.closed = true → ∀ id ∈ s'.present, id ∈ s.present
  seats : s.seats ≤ s'.seats

namespace Later

theorem refl (s : Roster) : s.Later s := ⟨rfl, id, fun _ _ => id, Nat.le_refl _⟩

theorem trans (first : s.Later s') (second : s'.Later s'') : s.Later s'' where
  key := second.key.trans first.key
  closed shut := second.closed (first.closed shut)
  nobody shut id member := first.nobody shut id (second.nobody (first.closed shut) id member)
  seats := Nat.le_trans first.seats second.seats

theorem seat (opened : s.closed = false) : s.Later s.seat := by
  refine ⟨rfl, id, fun shut => ?_, Nat.le_succ _⟩
  rw [opened] at shut
  cases shut

theorem unseat (s : Roster) (id : Nat) : s.Later (s.unseat id) :=
  ⟨rfl, fun shut => shut, fun _ _ member => (mem_unseat.mp member).1, Nat.le_refl _⟩

theorem shut (s : Roster) : s.Later s.shut :=
  ⟨rfl, fun _ => rfl, fun _ _ member => absurd member List.not_mem_nil, Nat.le_refl _⟩

theorem retireIfEmpty (s : Roster) : s.Later s.retireIfEmpty := by
  unfold Roster.retireIfEmpty
  split
  · exact shut s
  · exact refl s

theorem depart (s : Roster) (id : Nat) : s.Later (s.depart id) := by
  unfold Roster.depart
  split
  · exact (unseat s id).trans (retireIfEmpty _)
  · exact retireIfEmpty s

theorem subscribe (s : Roster) : s.Later s.subscribe :=
  ⟨rfl, fun shut => shut, fun _ _ => id, Nat.le_refl _⟩

theorem retire_withdraw (s : Roster) (n : Nat) : s.Later (s.retire.withdraw n) := by
  cases n with
  | zero => exact ⟨rfl, fun _ => rfl, fun _ _ => id, Nat.le_refl _⟩
  | succ n => exact ⟨rfl, fun _ => rfl, fun _ _ => id, Nat.le_refl _⟩

end Later

structure Shrinks (s s' : Roster) : Prop where
  later : s.Later s'
  left : ∀ id ∈ s'.present, id ∈ s.present

namespace Shrinks

theorem refl (s : Roster) : s.Shrinks s := ⟨.refl s, fun _ => id⟩

theorem trans (first : s.Shrinks s') (second : s'.Shrinks s'') : s.Shrinks s'' :=
  ⟨first.later.trans second.later, fun id member => first.left id (second.left id member)⟩

theorem unseat (s : Roster) (id : Nat) : s.Shrinks (s.unseat id) :=
  ⟨.unseat s id, fun _ member => (mem_unseat.mp member).1⟩

theorem shut (s : Roster) : s.Shrinks s.shut :=
  ⟨.shut s, fun _ member => absurd member List.not_mem_nil⟩

theorem retireIfEmpty (s : Roster) : s.Shrinks s.retireIfEmpty := by
  unfold Roster.retireIfEmpty
  split
  · exact shut s
  · exact refl s

theorem depart (s : Roster) (id : Nat) : s.Shrinks (s.depart id) := by
  unfold Roster.depart
  split
  · exact (unseat s id).trans (retireIfEmpty _)
  · exact retireIfEmpty s

theorem subscribe (s : Roster) : s.Shrinks s.subscribe := ⟨.subscribe s, fun _ => id⟩

theorem retire_withdraw (s : Roster) (n : Nat) : s.Shrinks (s.retire.withdraw n) := by
  refine ⟨.retire_withdraw s n, fun id member => ?_⟩
  cases n <;> exact member

theorem empty (f : s.Shrinks s') (empty : s.present = []) : s'.present = [] := by
  refine List.eq_nil_iff_forall_not_mem.mpr fun id member => ?_
  have earlier := f.left id member
  rw [empty] at earlier
  cases earlier

end Shrinks

inductive Drift (s : Roster) : Roster → Prop
  | still : Drift s s
  | shut : Drift s s.shut
  | join (opened : s.closed = false) (watched : s.present ≠ []) : Drift s s.seat
  | part (id : Nat) (others : (s.unseat id).present ≠ []) : Drift s (s.unseat id)

/-- The relay is closed exactly when nobody is attached. -/
def ClosedIffEmpty (s : Roster) : Prop := s.closed = true ↔ s.present = []

/-- There is one subscription, and it says whether anybody is attached. -/
def Told (s : Roster) : Prop := s.signals = [if s.present = [] then .fired else .pending]

namespace Drift

theorem retireIfEmpty (s : Roster) : s.Drift s.retireIfEmpty := by
  unfold Roster.retireIfEmpty
  split
  · exact .shut
  · exact .still

theorem depart (s : Roster) (id : Nat) : s.Drift (s.depart id) := by
  rcases s.depart_cases id with ⟨shut, -⟩ | ⟨same, -, -⟩ | ⟨left, -, others⟩
  · exact shut ▸ .shut
  · exact same.symm ▸ .still
  · exact left ▸ .part id others

theorem later (d : s.Drift s') : s.Later s' := by
  cases d with
  | still => exact .refl s
  | shut => exact .shut s
  | join opened watched => exact .seat opened
  | part id others => exact .unseat s id

theorem empty (d : s.Drift s') (empty : s.present = []) : s'.present = [] := by
  cases d with
  | still => exact empty
  | shut => rfl
  | join opened watched => exact absurd empty watched
  | part id others => simp [Roster.unseat, empty]

theorem silent (d : s.Drift s') (silent : s.signals = []) : s'.signals = [] := by
  cases d with
  | still => exact silent
  | shut => simp [Roster.shut, silent]
  | join opened watched => exact silent
  | part id others => simp [Roster.unseat, silent]

theorem closedIffEmpty (d : s.Drift s') (closedIffEmpty : s.ClosedIffEmpty) : s'.ClosedIffEmpty := by
  cases d with
  | still => exact closedIffEmpty
  | shut => simp [ClosedIffEmpty, Roster.shut]
  | join opened watched => simp [ClosedIffEmpty, Roster.seat, opened]
  | part id others =>
    have watched : s.present ≠ [] := fun none => others (by simp [Roster.unseat, none])
    have opened : ¬ s.closed = true := fun shut => watched (closedIffEmpty.mp shut)
    exact ⟨fun shut => absurd shut opened, fun none => absurd none others⟩

theorem told (d : s.Drift s') (told : s.Told) : s'.Told := by
  unfold Told at told ⊢
  cases d with
  | still => exact told
  | shut =>
    by_cases none : s.present = [] <;> simp [Roster.shut, told, none, Signal.fire]
  | join opened watched => simp [Roster.seat, told, watched]
  | part id others =>
    have watched : s.present ≠ [] := fun none => others (by simp [Roster.unseat, none])
    have signals : (s.unseat id).signals = s.signals := if_neg others
    rw [signals, told, if_neg watched, if_neg others]

end Drift

theorem signals_depart {id : Nat} (silent : s.signals = []) : (s.depart id).signals = [] := by
  rcases s.depart_cases id with ⟨shut, -⟩ | ⟨same, -, -⟩ | ⟨left, -, -⟩
  · simp [shut, Roster.shut, silent]
  · rw [same, silent]
  · simp [left, unseat, silent]

theorem signals_retireIfEmpty (silent : s.signals = []) : s.retireIfEmpty.signals = [] := by
  unfold Roster.retireIfEmpty
  split
  · simp [shut, silent]
  · exact silent

structure Keeps (id : Nat) (s s' : Roster) : Prop where
  later : s.Later s'
  kept : id ∈ s.present → s'.closed = true ∨ id ∈ s'.present
  gone : id ≤ s.seats → id ∉ s.present → id ∉ s'.present

namespace Keeps

variable {id : Nat}

theorem still (s : Roster) : Keeps id s s := ⟨.refl s, .inr, fun _ absent => absent⟩

theorem shut (s : Roster) : Keeps id s s.shut :=
  ⟨.shut s, fun _ => .inl rfl, fun _ _ => List.not_mem_nil⟩

theorem seat (opened : s.closed = false) : Keeps id s s.seat where
  later := .seat opened
  kept member := .inr (List.mem_append_left _ member)
  gone small absent member := by
    rcases List.mem_append.mp member with old | new
    · exact absent old
    · rw [List.mem_singleton] at new
      omega

theorem retireIfEmpty (s : Roster) : Keeps id s s.retireIfEmpty := by
  unfold Roster.retireIfEmpty
  split
  · exact shut s
  · exact still s

theorem depart (s : Roster) {other : Nat} (differs : id ≠ other) : Keeps id s (s.depart other) := by
  rcases s.depart_cases other with ⟨same, -⟩ | ⟨same, -, -⟩ | ⟨same, -, -⟩
  · exact same ▸ shut s
  · exact same.symm ▸ still s
  · rw [same]
    exact ⟨.unseat s other, fun member => .inr (mem_unseat.mpr ⟨member, differs⟩),
      fun _ absent member => absent (mem_unseat.mp member).1⟩

theorem subscribe (s : Roster) : Keeps id s s.subscribe :=
  ⟨.subscribe s, .inr, fun _ absent => absent⟩

theorem retire_withdraw (s : Roster) (n : Nat) : Keeps id s (s.retire.withdraw n) := by
  cases n with
  | zero => exact ⟨.retire_withdraw s 0, .inr, fun _ absent => absent⟩
  | succ n => exact ⟨.retire_withdraw s (n + 1), .inr, fun _ absent => absent⟩

end Keeps

end Fanout.Roster
