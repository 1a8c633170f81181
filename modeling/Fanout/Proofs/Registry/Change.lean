import Fanout.Proofs.Registry.Listed
import Fanout.Proofs.Relay.Drift

namespace Fanout.Registry

variable {g g' g'' : Registry} {key : StreamKey} {i : Nat} {f f' : Roster → Roster}

def Later (g g' : Registry) : Prop :=
  ∀ i s, g.roster? i = some s → ∃ s', g'.roster? i = some s' ∧ s.Later s'

namespace Later

theorem of_same (rosters : g'.roster? = g.roster?) : g.Later g' :=
  fun i s old => ⟨s, by rw [rosters, old], .refl s⟩

theorem refl (g : Registry) : g.Later g := of_same rfl

theorem trans (first : g.Later g') (second : g'.Later g'') : g.Later g'' := by
  intro i s old
  obtain ⟨s', mid, later⟩ := first i s old
  obtain ⟨s'', new, later'⟩ := second i s' mid
  exact ⟨s'', new, later.trans later'⟩

end Later

structure Changed (i : Nat) (f : Roster → Roster) (g g' : Registry) : Prop where
  rosters : ∀ j, g'.roster? j = if j = i then (g.roster? i).map f else g.roster? j
  sub : g'.table.Sublist g.table
  dropped : ∀ e ∈ g.table, e ∉ g'.table →
    g.find? e.1 = some i ∧ ∀ s, g'.roster? i = some s → s.closed = true

namespace Changed

theorem of_same (rosters : g'.roster? = g.roster?) (table : g'.table = g.table)
    (still : ∀ s, g.roster? i = some s → f s = s) : Changed i f g g' := by
  refine ⟨fun j => ?_, table ▸ List.Sublist.refl _, fun e member gone => ?_⟩
  · rw [rosters]
    split
    · rename_i same
      subst same
      cases h : g.roster? j with
      | none => rfl
      | some s => rw [Option.map_some, still s h]
    · rfl
  · rw [table] at gone
    exact absurd member gone

theorem of_update {s : Roster} (old : g.roster? i = some s)
    (new : g'.roster? = Function.update g.roster? i (some (f s))) (table : g'.table = g.table) :
    Changed i f g g' := by
  refine ⟨fun j => ?_, table ▸ List.Sublist.refl _, fun e member gone => ?_⟩
  · rw [new, Function.update_apply, old]
    rfl
  · rw [table] at gone
    exact absurd member gone

theorem of_relay {r r' : Relay} (old : g.relays[i]? = some r) (new : r'.roster = f r.roster) :
    Changed i f g (g.updateRelay i fun _ => r') :=
  .of_update (roster?_of_relay old) (by rw [roster?_updateRelay old, new]) rfl

theorem of_missing (missing : g.roster? i = none) : Changed i f g g :=
  .of_same rfl rfl fun s h => by rw [missing] at h; cases h

theorem andThen (first : Changed i f g g') (table : g'.table = g.table)
    (second : Changed i f' g' g'') : Changed i (fun s => f' (f s)) g g'' := by
  have find : ∀ key, g'.find? key = g.find? key := by
    intro key
    simp only [find?, table]
  refine ⟨fun j => ?_, table ▸ second.sub, fun e member gone => ?_⟩
  · rw [second.rosters j, first.rosters, first.rosters]
    split
    · rw [if_pos rfl, Option.map_map]
      rfl
    · rfl
  · rw [← find]
    exact second.dropped e (table.symm ▸ member) gone

theorem congr (h : Changed i f g g') (same : ∀ s, g.roster? i = some s → f s = f' s) :
    Changed i f' g g' := by
  refine ⟨fun j => ?_, h.sub, h.dropped⟩
  rw [h.rosters]
  split
  · cases old : g.roster? i with
    | none => rfl
    | some s => rw [Option.map_some, Option.map_some, same s old]
  · rfl

/-- Detaching a viewer and retiring the relay that was left empty is one departure. -/
theorem depart {id : Nat} (left : Changed i (·.unseat id) g g') (table : g'.table = g.table)
    (present : ∀ s, g.roster? i = some s → id ∈ s.present)
    (retired : Changed i Roster.retireIfEmpty g' g'') : Changed i (·.depart id) g g'' :=
  (left.andThen table retired).congr fun s old => by rw [Roster.depart, if_pos (present s old)]

theorem depart_of_absent {id : Nat} (gone : ∀ s, g.roster? i = some s → id ∉ s.present)
    (retired : Changed i Roster.retireIfEmpty g g') : Changed i (·.depart id) g g' :=
  retired.congr fun s old => by rw [Roster.depart, if_neg (gone s old)]

theorem updateSink (h : Changed i f g g') (place : Nat × Nat) {k : Sink → Sink}
    (keeps : ∀ s, (k s).id = s.id) : Changed i f g (g'.updateSink place k) := by
  refine ⟨fun j => ?_, h.sub, fun e member gone => ?_⟩
  · rw [roster?_updateSink place keeps]
    exact h.rosters j
  · rw [roster?_updateSink place keeps]
    exact h.dropped e member gone

theorem self (h : Changed i f g g') {s : Roster} (old : g.roster? i = some s) :
    g'.roster? i = some (f s) := by
  rw [h.rosters, if_pos rfl, old]
  rfl

theorem other (h : Changed i f g g') {j : Nat} (differs : j ≠ i) :
    g'.roster? j = g.roster? j := by
  rw [h.rosters, if_neg differs]

theorem back (h : Changed i f g g') {j : Nat} {s' : Roster} (new : g'.roster? j = some s') :
    ∃ s, g.roster? j = some s ∧ (j = i ∧ s' = f s ∨ j ≠ i ∧ s' = s) := by
  rw [h.rosters] at new
  split at new
  · rename_i same
    obtain ⟨s, old, rfl⟩ := Option.map_eq_some_iff.mp new
    exact ⟨s, same ▸ old, .inl ⟨same, rfl⟩⟩
  · rename_i differs
    exact ⟨s', new, .inr ⟨differs, rfl⟩⟩

theorem forth (h : Changed i f g g') {j : Nat} {s : Roster} (old : g.roster? j = some s) :
    ∃ s', g'.roster? j = some s' ∧ (j = i ∧ s' = f s ∨ j ≠ i ∧ s' = s) := by
  by_cases same : j = i
  · subst same
    exact ⟨f s, h.self old, .inl ⟨rfl, rfl⟩⟩
  · exact ⟨s, (h.other same).trans old, .inr ⟨same, rfl⟩⟩

theorem watched (h : Changed i f g g') (empty : ∀ s, s.present = [] → (f s).present = []) {j : Nat}
    {s' : Roster} (new : g'.roster? j = some s') (watched : s'.present ≠ []) :
    ∃ s, g.roster? j = some s ∧ s.present ≠ [] := by
  obtain ⟨s, old, ⟨-, rfl⟩ | ⟨-, rfl⟩⟩ := h.back new
  · exact ⟨s, old, fun none => watched (empty s none)⟩
  · exact ⟨s', old, watched⟩

theorem later (h : Changed i f g g')
    (goes : ∀ s, g.roster? i = some s → s.Later (f s)) : g.Later g' := by
  intro j s old
  obtain ⟨s', new, ⟨same, rfl⟩ | ⟨-, rfl⟩⟩ := h.forth old
  · exact ⟨_, new, goes s (same ▸ old)⟩
  · exact ⟨_, new, .refl s'⟩

theorem listed (h : Changed i f g g') (l : g.Listed)
    (goes : ∀ s, g.roster? i = some s → s.Later (f s)) : g'.Listed := by
  refine l.change h.sub ?_ ?_ ?_
  · intro j s' new
    obtain ⟨s, old, ⟨same, rfl⟩ | ⟨-, rfl⟩⟩ := h.back new
    · have later := goes s (same ▸ old)
      refine ⟨s, old, later.key, fun opened => ?_⟩
      by_contra shut
      rw [later.closed (by simpa using shut)] at opened
      cases opened
    · exact ⟨s', old, rfl, id⟩
  · intro j s old
    obtain ⟨s', new, ⟨same, rfl⟩ | ⟨-, rfl⟩⟩ := h.forth old
    · exact ⟨_, new, (goes s (same ▸ old)).key⟩
    · exact ⟨_, new, rfl⟩
  · intro e member gone s new
    obtain ⟨found, shut⟩ := h.dropped e member gone
    rw [l.eq_of_key member (l.find?_eq_some_iff.mp found)] at new
    exact shut s new

end Changed

theorem erase_of_find?_none (missing : g.find? key = none) : g.erase key = g := by
  simp only [find?, Option.map_eq_none_iff, List.find?_eq_none] at missing
  have kept : g.table.filter (·.1 != key) = g.table := by
    rw [List.filter_eq_self]
    intro e member
    simpa using missing e member
  simp only [erase, kept]

theorem removeIfSame_changed (key : StreamKey) {i : Nat}
    (closed : ∀ s, g.roster? i = some s → s.closed = true) :
    Changed i id g (g.removeIfSame key i).1 := by
  refine ⟨fun j => ?_, removeIfSame_sublist key i, fun e member gone => ⟨?_, ?_⟩⟩
  · rw [removeIfSame_roster?]
    split
    · rename_i same
      rw [same, Option.map_id_apply]
    · rfl
  · exact (removeIfSame_dropped member gone).2
  · rw [removeIfSame_roster?]
    exact closed

theorem removeAndClose_changed (key : StreamKey) (i now : Nat) :
    Changed i Roster.shut g ((g.removeIfSame key i).1.beginClose i now).1 := by
  have table := beginClose_table (g := (g.removeIfSame key i).1) i now
  have shutWhere := beginClose_shutWhere (g := (g.removeIfSame key i).1) i now
  have self (s : Roster) (old : g.roster? i = some s) :
      ((g.removeIfSame key i).1.beginClose i now).1.roster? i = some s.shut := by
    rw [roster?_beginClose (by rw [removeIfSame_roster?, old]), Function.update_self]
  refine ⟨fun j => ?_, table ▸ removeIfSame_sublist key i, fun e member gone => ⟨?_, ?_⟩⟩
  · by_cases same : j = i
    · subst same
      rw [if_pos rfl]
      cases old : g.roster? j with
      | none =>
        rcases shutWhere j with kept | ⟨s, old', -⟩
        · rw [kept, removeIfSame_roster?, old, Option.map_none]
        · rw [removeIfSame_roster?, old] at old'
          cases old'
      | some s => rw [self s old, Option.map_some]
    · rw [if_neg same, ← removeIfSame_roster? (g := g) key i]
      rcases shutWhere j with kept | ⟨s, -, chosen, -⟩
      · exact kept
      · exact absurd chosen same
  · rw [table] at gone
    exact (removeIfSame_dropped member gone).2
  · intro s new
    obtain ⟨s', old, -⟩ := shutWhere.back new
    rw [self s' (by rw [← old, removeIfSame_roster?]), Option.some.injEq] at new
    exact new ▸ rfl

theorem retireEntry_changed (i : Nat) :
    Changed i Roster.retireIfEmpty g (g.retireEntry i).1 := by
  cases old : g.roster? i with
  | none =>
    have missing : g.relays[i]? = none := by simpa [roster?] using old
    unfold retireEntry
    rw [missing]
    exact .of_missing old
  | some s => exact .of_update old (roster?_retireEntry old).1 (retireEntry_table i)

def retireAndRemove (g : Registry) (key : StreamKey) (i : Nat) : Registry :=
  if (g.retireEntry i).2 then ((g.retireEntry i).1.removeIfSame key i).1 else (g.retireEntry i).1

theorem retireAndRemove_changed (key : StreamKey) (i : Nat) :
    Changed i Roster.retireIfEmpty g (g.retireAndRemove key i) := by
  unfold retireAndRemove
  split
  · rename_i closed
    refine (retireEntry_changed i).andThen (retireEntry_table i) (removeIfSame_changed key ?_)
    intro s' new
    obtain ⟨s, old, -⟩ := (retireEntry_changed (g := g) i).back new
    rw [(retireEntry_changed i).self old, Option.some.injEq] at new
    rw [← new, ← (roster?_retireEntry old).2]
    exact closed
  · exact retireEntry_changed i

theorem find?_retireAndRemove
    (only : ∀ j, g.find? key = some j → j = i ∧ ∃ s, g.roster? i = some s ∧ s.present = []) :
    (g.retireAndRemove key i).find? key = none := by
  have find : (g.retireEntry i).1.find? key = g.find? key := by
    rw [find?, find?, retireEntry_table]
  cases entry : g.find? key with
  | none =>
    unfold retireAndRemove removeIfSame
    rw [find, entry]
    split <;> exact find.trans entry
  | some j =>
    obtain ⟨rfl, s, old, empty⟩ := only j entry
    have closed : (g.retireEntry j).2 = true := by
      rw [(roster?_retireEntry old).2, Roster.retireIfEmpty]
      split
      · rfl
      · rename_i still
        by_contra opened
        exact still ⟨by simpa using opened, empty⟩
    unfold retireAndRemove removeIfSame
    rw [if_pos closed, if_pos (find.trans entry)]
    simp [find?, erase]

/-- A viewer is seated at the relay of a key. A relay that refuses is replaced. -/
inductive Seated (g : Registry) (key : StreamKey) (pipe : Pipe) :
    Registry → Nat × Nat → Bool → Prop
  | found {i id : Nat} {r r' : Relay} {first : Bool} (entry : g.find? key = some i)
      (relay : g.relays[i]? = some r) (added : r.add pipe = some (r', id, first)) :
      Seated g key pipe (g.updateRelay i fun _ => r') (i, id) first
  | made {id : Nat} {r' : Relay} {first : Bool}
      (refused : ∀ i r, g.find? key = some i → g.relays[i]? = some r → r.closed = true)
      (added : (Relay.new key g.config).add pipe = some (r', id, first)) :
      Seated g key pipe
        { g with
          relays := g.relays ++ [r']
          table := (g.erase key).table ++ [(key, g.relays.length)] }
        (g.relays.length, id) first

/-- What seating shows: the next number at an open relay of the key, or a relay of its own. -/
inductive Seat (g : Registry) (key : StreamKey) (g' : Registry) (place : Nat × Nat) (first : Bool) :
    Prop
  | found (s : Roster) (old : g.roster? place.1 = some s) (named : s.key = key)
      (opened : s.closed = false) (number : place.2 = s.seats + 1)
      (alone : first = true ↔ s.present = [])
      (rosters : g'.roster? = Function.update g.roster? place.1 (some s.seat))
      (table : g'.table = g.table)
  | made (missing : g.roster? place.1 = none) (number : place.2 = 1) (alone : first = true)
      (closed : ∀ s i, g.roster? i = some s → s.key = key → s.closed = true)
      (rosters : g'.roster? =
        Function.update g.roster? place.1 (some ⟨key, false, [1], 1, []⟩))
      (table : g'.table = (g.erase key).table ++ [(key, place.1)])

theorem Seated.seat {pipe : Pipe} {place : Nat × Nat} {first : Bool}
    (h : g.Seated key pipe g' place first) (l : g.Listed) : g.Seat key g' place first := by
  cases h with
  | @found i id r r' first entry relay added =>
    obtain ⟨opened, number, alone, seated⟩ := Relay.roster_add added
    obtain ⟨s, old, named⟩ := l.named _ (l.find?_eq_some_iff.mp entry)
    rw [roster?_of_relay relay, Option.some.injEq] at old
    refine .found r.roster (roster?_of_relay relay) (old ▸ named) opened number ?_ ?_ rfl
    · rw [alone]
      exact Relay.isEmpty_iff
    · rw [roster?_updateRelay relay, seated]
  | @made id r' first refused added =>
    obtain ⟨-, number, alone, seated⟩ := Relay.roster_add added
    refine .made (by simp [roster?]) number (by rw [alone]; rfl) ?_ ?_ rfl
    · intro s i old named
      by_contra opened
      have entry := l.registered i s old (by simpa using opened)
      rw [named] at entry
      obtain ⟨r, relay, rfl⟩ := relay_of_roster? old
      exact opened (refused i r (l.find?_eq_some_iff.mpr entry) relay)
    · funext j
      by_cases last : j = g.relays.length
      · subst last
        simp [roster?, seated, Roster.seat]
      · rw [Function.update_of_ne last]
        by_cases small : j < g.relays.length
        · simp [roster?, List.getElem?_append_left small]
        · have beyond := List.getElem?_eq_none_iff.mpr (Nat.le_of_not_lt small)
          simp [roster?, beyond]
          omega

theorem Seat.listed {place : Nat × Nat} {first : Bool} (h : g.Seat key g' place first)
    (l : g.Listed) : g'.Listed := by
  cases h with
  | found s old named opened number alone rosters table =>
    refine (Changed.of_update (f := Roster.seat) old rosters table).listed l fun t old' => ?_
    rw [old, Option.some.injEq] at old'
    exact .seat (old' ▸ opened)
  | made missing number alone closed rosters table =>
    refine ⟨?_, ?_, ?_⟩
    · rw [table, List.map_append, List.nodup_append]
      refine ⟨l.nodup.sublist (List.filter_sublist.map _), by simp, ?_⟩
      simp only [List.mem_map, List.map_cons, List.map_nil, List.mem_singleton]
      rintro _ ⟨e, member, rfl⟩ _ rfl
      exact (mem_erase.mp member).2
    · intro e member
      rw [table, List.mem_append, List.mem_singleton] at member
      rcases member with old | rfl
      · obtain ⟨s, here, named⟩ := l.named e (mem_erase.mp old).1
        have differs : e.2 ≠ place.1 := fun same => by
          rw [same, missing] at here
          cases here
        exact ⟨s, by rw [rosters, Function.update_of_ne differs]; exact here, named⟩
      · exact ⟨_, by rw [rosters, Function.update_self], rfl⟩
    · intro i s here opened
      rw [table, List.mem_append, List.mem_singleton]
      rw [rosters] at here
      by_cases same : i = place.1
      · subst same
        rw [Function.update_self, Option.some.injEq] at here
        subst here
        exact .inr rfl
      · rw [Function.update_of_ne same] at here
        refine .inl (mem_erase.mpr ⟨l.registered i s here opened, fun named => ?_⟩)
        rw [closed s i here named] at opened
        cases opened

theorem Seat.other {place : Nat × Nat} {first : Bool} (h : g.Seat key g' place first) {j : Nat}
    (differs : j ≠ place.1) : g'.roster? j = g.roster? j := by
  cases h with
  | found _ _ _ _ _ _ rosters => rw [rosters, Function.update_of_ne differs]
  | made _ _ _ _ rosters => rw [rosters, Function.update_of_ne differs]

theorem Seat.self {place : Nat × Nat} {first : Bool} (h : g.Seat key g' place first) :
    ∃ s, g'.roster? place.1 = some s ∧ s.key = key ∧ s.closed = false ∧ s.seats = place.2 ∧
      place.2 ∈ s.present ∧ (first = true → s.present = [place.2]) ∧
        ∀ t, g.roster? place.1 = some t → t.seats < place.2 := by
  cases h with
  | found s old named opened number alone rosters =>
    refine ⟨s.seat, by rw [rosters, Function.update_self], named, opened, number.symm, ?_, ?_, ?_⟩
    · simp [Roster.seat, number]
    · intro first
      simp [Roster.seat, number, alone.mp first]
    · intro t same
      rw [old, Option.some.injEq] at same
      subst same
      omega
  | made missing number alone closed rosters =>
    refine ⟨_, by rw [rosters, Function.update_self], rfl, rfl, number.symm, ?_, ?_, ?_⟩
    · simp [number]
    · simp [number]
    · rw [missing]
      simp

theorem Seat.forth {place : Nat × Nat} {first : Bool} (h : g.Seat key g' place first) {j : Nat}
    {s : Roster} (old : g.roster? j = some s) :
    ∃ s', g'.roster? j = some s' ∧ (s' = s ∨ s.key = key ∧ s.closed = false ∧ s' = s.seat) := by
  cases h with
  | found t here named opened number alone rosters table =>
    rw [rosters]
    by_cases same : j = place.1
    · subst same
      rw [here, Option.some.injEq] at old
      subst old
      exact ⟨_, Function.update_self .., .inr ⟨named, opened, rfl⟩⟩
    · exact ⟨s, by rw [Function.update_of_ne same, old], .inl rfl⟩
  | made missing number alone closed rosters table =>
    rw [rosters]
    have differs : j ≠ place.1 := fun same => by
      rw [same, missing] at old
      cases old
    exact ⟨s, by rw [Function.update_of_ne differs, old], .inl rfl⟩

theorem Seat.later {place : Nat × Nat} {first : Bool} (h : g.Seat key g' place first) :
    g.Later g' := by
  intro i s old
  obtain ⟨s', new, rfl | ⟨-, opened, rfl⟩⟩ := h.forth old
  · exact ⟨s', new, .refl s'⟩
  · exact ⟨_, new, .seat opened⟩

theorem ShutWhere.watched {p : Nat → Roster → Prop} (c : ShutWhere p g g') {j : Nat} {s' : Roster}
    (new : g'.roster? j = some s') (watched : s'.present ≠ []) :
    ∃ s, g.roster? j = some s ∧ s.present ≠ [] := by
  obtain ⟨s, old, rfl | ⟨-, rfl⟩⟩ := c.back new
  · exact ⟨s', old, watched⟩
  · exact absurd rfl watched

theorem ShutWhere.later {p : Nat → Roster → Prop} (c : ShutWhere p g g') : g.Later g' := by
  intro i s old
  obtain ⟨s', new, rfl | ⟨-, rfl⟩⟩ := c.forth old
  · exact ⟨s', new, .refl s'⟩
  · exact ⟨_, new, .shut s⟩

/-- Nobody is seated, no relay is made, and entries only go. -/
structure Shrinks (g g' : Registry) : Prop where
  rosters : ∀ i s, g.roster? i = some s → ∃ s', g'.roster? i = some s' ∧ s.Shrinks s'
  made : ∀ i s', g'.roster? i = some s' → ∃ s, g.roster? i = some s
  table : g'.table.Sublist g.table

namespace Shrinks

theorem of_same (rosters : g'.roster? = g.roster?) (table : g'.table = g.table) : g.Shrinks g' :=
  ⟨fun i s old => ⟨s, by rw [rosters, old], .refl s⟩, fun i s' new => ⟨s', rosters ▸ new⟩,
    table ▸ List.Sublist.refl _⟩

theorem back (h : g.Shrinks g') {s' : Roster} (new : g'.roster? i = some s') :
    ∃ s, g.roster? i = some s ∧ s.Shrinks s' := by
  obtain ⟨s, old⟩ := h.made i s' new
  obtain ⟨s'', new', shrinks⟩ := h.rosters i s old
  rw [new, Option.some.injEq] at new'
  exact ⟨s, old, new' ▸ shrinks⟩

end Shrinks

theorem Changed.shrinks (h : Changed i f g g') (shrinks : ∀ s : Roster, s.Shrinks (f s)) :
    g.Shrinks g' := by
  refine ⟨fun j s old => ?_, fun j s' new => ?_, h.sub⟩
  · obtain ⟨s', new, ⟨-, rfl⟩ | ⟨-, rfl⟩⟩ := h.forth old
    · exact ⟨_, new, shrinks s⟩
    · exact ⟨_, new, .refl _⟩
  · obtain ⟨s, old, -⟩ := h.back new
    exact ⟨s, old⟩

theorem ShutWhere.shrinks {p : Nat → Roster → Prop} (c : ShutWhere p g g')
    (table : g'.table.Sublist g.table) : g.Shrinks g' := by
  refine ⟨fun j s old => ?_, fun j s' new => ?_, table⟩
  · obtain ⟨s', new, rfl | ⟨-, rfl⟩⟩ := c.forth old
    · exact ⟨_, new, .refl _⟩
    · exact ⟨_, new, .shut s⟩
  · obtain ⟨s, old, -⟩ := c.back new
    exact ⟨s, old⟩

end Fanout.Registry
