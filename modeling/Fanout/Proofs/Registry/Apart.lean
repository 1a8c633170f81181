import Fanout.Proofs.Registry.Change

namespace Fanout

theorem Relay.key_retireIfEmpty (r : Relay) : r.retireIfEmpty.1.key = r.key := by
  unfold retireIfEmpty
  split
  · rfl
  · split <;> rfl

namespace Registry

variable {g g' g'' : Registry} {key other : StreamKey} {i : Nat}

def Named (g : Registry) (key : StreamKey) (i : Nat) : Prop :=
  ∀ r, g.relays[i]? = some r → r.key = key

theorem Named.of_roster {s : Roster} (old : g.roster? i = some s) (named : s.key = key) :
    g.Named key i := by
  intro r relay
  rw [roster?_of_relay relay, Option.some.injEq] at old
  exact (congrArg (·.key) old).trans named

structure Apart (key : StreamKey) (g g' : Registry) : Prop where
  relays : ∀ (i : Nat) r, r.key ≠ key → (g'.relays[i]? = some r ↔ g.relays[i]? = some r)
  entries : ∀ other, other ≠ key → g'.find? other = g.find? other

namespace Apart

theorem refl (g : Registry) : Apart key g g := ⟨fun _ _ _ => .rfl, fun _ _ => rfl⟩

theorem trans (first : Apart key g g') (second : Apart key g' g'') : Apart key g g'' where
  relays i r foreign := (second.relays i r foreign).trans (first.relays i r foreign)
  entries other differs := (second.entries other differs).trans (first.entries other differs)

theorem named (h : Apart key g g') (named : g.Named key i) : g'.Named key i := by
  intro r relay
  by_contra foreign
  exact foreign (named r ((h.relays i r foreign).mp relay))

theorem of_relay (named : g.Named key i) (named' : g'.Named key i)
    (others : ∀ j, j ≠ i → g'.relays[j]? = g.relays[j]?) (table : g'.table = g.table) :
    Apart key g g' := by
  refine ⟨fun j r foreign => ?_, fun other _ => by rw [find?, find?, table]⟩
  by_cases same : j = i
  · subst same
    exact ⟨fun new => absurd (named' r new) foreign, fun old => absurd (named r old) foreign⟩
  · rw [others j same]

theorem updateRelay (named : g.Named key i) {f : Relay → Relay}
    (keeps : ∀ r, r.key = key → (f r).key = key) : Apart key g (g.updateRelay i f) := by
  refine .of_relay named (fun r new => ?_) (fun j differs => ?_) rfl
  · rcases getElem?_modify_cases new with ⟨x, -, old, rfl⟩ | ⟨differs, -⟩
    · exact keeps x (named x old)
    · exact absurd rfl differs
  · simp [Registry.updateRelay, Ne.symm differs]

theorem updateSink {place : Nat × Nat} (named : g.Named key place.1) (f : Sink → Sink) :
    Apart key g (g.updateSink place f) :=
  .updateRelay named fun _ same => same

theorem set {r r' : Relay} (named : g.Named key i) (relay : g.relays[i]? = some r)
    (same : r'.key = r.key) : Apart key g { g with relays := g.relays.set i r' } := by
  have small := (List.getElem?_eq_some_iff.mp relay).1
  refine .of_relay named (fun t new => ?_) (fun j differs => ?_) rfl
  · rw [List.getElem?_set_self small, Option.some.injEq] at new
    exact new ▸ (same.trans (named r relay))
  · exact List.getElem?_set_ne (Ne.symm differs)

theorem retireEntry (named : g.Named key i) : Apart key g (g.retireEntry i).1 := by
  unfold Registry.retireEntry
  split
  · rename_i r relay
    exact set named relay r.key_retireIfEmpty
  · exact refl g

theorem beginClose (named : g.Named key i) (now : Nat) : Apart key g (g.beginClose i now).1 := by
  unfold Registry.beginClose
  split
  · rename_i r relay
    exact set named relay rfl
  · exact refl g

theorem abandonClose {sinks : List (Nat × Nat)} (named : ∀ place ∈ sinks, g.Named key place.1) :
    Apart key g (g.abandonClose sinks) := by
  unfold Registry.abandonClose
  induction sinks generalizing g with
  | nil => exact refl g
  | cons place rest ih =>
    have first := updateSink (named place List.mem_cons_self) Sink.abandonClose
    rw [List.foldl_cons]
    exact first.trans (ih fun other member =>
      first.named (named other (List.mem_cons_of_mem _ member)))

theorem erase (g : Registry) (key : StreamKey) : Apart key g (g.erase key) := by
  refine ⟨fun _ _ _ => .rfl, fun other differs => ?_⟩
  have kept : ∀ entry : StreamKey × Nat,
      ((entry.1 != key) && (entry.1 == other)) = (entry.1 == other) := by
    intro entry
    by_cases same : entry.1 = other <;> simp [same, differs]
  simp only [find?, Registry.erase, List.find?_filter, Bool.decide_and, Bool.decide_eq_true, kept]

theorem removeIfSame (g : Registry) (key : StreamKey) (i : Nat) :
    Apart key g (g.removeIfSame key i).1 := by
  unfold Registry.removeIfSame
  split
  · exact erase g key
  · exact refl g

theorem retireAndRemove (named : g.Named key i) : Apart key g (g.retireAndRemove key i) := by
  unfold Registry.retireAndRemove
  split
  · exact (retireEntry named).trans (removeIfSame _ key i)
  · exact retireEntry named

theorem seated {pipe : Pipe} {place : Nat × Nat} {first : Bool} (l : g.Listed)
    (h : g.Seated key pipe g' place first) : Apart key g g' ∧ g'.Named key place.1 := by
  obtain ⟨s, new, key', -⟩ := (h.seat l).self
  refine ⟨?_, .of_roster new key'⟩
  cases h with
  | @found i id r r' first entry relay added =>
    obtain ⟨s, old, named⟩ := l.named _ (l.find?_eq_some_iff.mp entry)
    have same : r'.key = r.key := congrArg (·.key) (Relay.roster_add added).2.2.2
    have named : g.Named key i := .of_roster old named
    exact .updateRelay named fun _ _ => same.trans (named r relay)
  | @made id r' first refused added =>
    have same : r'.key = key := congrArg (·.key) (Relay.roster_add added).2.2.2
    have erased := erase g key
    refine ⟨fun j r foreign => ?_, fun other differs => ?_⟩
    · by_cases small : j < g.relays.length
      · rw [List.getElem?_append_left small]
      · rw [List.getElem?_eq_none_iff.mpr (Nat.le_of_not_lt small)]
        refine ⟨fun made => ?_, nofun⟩
        rcases getElem?_append_cases made with old | ⟨-, rfl⟩
        · rwa [List.getElem?_eq_none_iff.mpr (Nat.le_of_not_lt small)] at old
        · exact absurd same foreign
    · rw [← erased.entries other differs]
      simp only [find?, List.find?_append]
      cases (g.erase key).table.find? (·.1 == other) with
      | some e => rfl
      | none => simp [Ne.symm differs]

end Apart

end Registry

end Fanout
