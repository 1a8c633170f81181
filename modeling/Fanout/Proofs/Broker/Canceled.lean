import Fanout.Proofs.Broker.Reached

namespace Fanout

theorem Pull.Fits.empty {p : Pull} {s : Roster} (h : p.Fits s) (canceled : p.canceled = true) :
    s.closed = true ∧ s.present = [] := by
  obtain ⟨-, fits⟩ := h
  cases matched : p.state with
  | starting | queued guard =>
    rw [matched, canceled] at fits
    cases fits.1
  | running =>
    rw [matched, canceled] at fits
    obtain ⟨-, -, closedIffEmpty, ⟨-, awake⟩ | ⟨-, -, empty⟩⟩ := fits
    · cases awake
    · exact ⟨closedIffEmpty.mpr empty, empty⟩
  | leaving guard ending wasCanceled =>
    rw [matched] at fits
    obtain ⟨closed, -, empty⟩ := fits
    exact ⟨closed, empty canceled⟩
  | closing sinks ending wasCanceled | ended outcome =>
    rw [matched] at fits
    obtain ⟨closed, -, empty⟩ := fits
    exact ⟨closed, empty⟩

namespace Broker

variable {b b' : Broker} {i j : Nat} {p : Pull}

/-- The relay is closed and has no viewers. -/
def Deserted (b : Broker) (j : Nat) : Prop :=
  ∃ relay, b.registry.relays[j]? = some relay ∧ relay.closed = true ∧ relay.isEmpty = true

theorem deserted_iff :
    b.Deserted j ↔ ∃ s, b.roster? j = some s ∧ s.closed = true ∧ s.present = [] := by
  simp only [Deserted, Relay.isEmpty_iff]
  exact exists_relay_iff (p := fun s => s.closed = true ∧ s.present = [])

theorem Deserted.moves (deserted : b.Deserted j) (h : b.Sound) (moves : Moves b b') :
    b'.Deserted j := by
  rw [deserted_iff] at deserted ⊢
  obtain ⟨s, old, closed, empty⟩ := deserted
  obtain ⟨s', new, goes⟩ := (moves.onward h.listed).later j s old
  refine ⟨s', new, goes.closed closed, List.eq_nil_iff_forall_not_mem.mpr fun id member => ?_⟩
  have before := goes.nobody closed id member
  rw [empty] at before
  exact absurd before List.not_mem_nil

theorem Sound.deserted (h : b.Sound) (up : b.shutdown = false) (here : b.pulls[i]? = some p)
    (canceled : b.scopeCanceled p = true) : b.Deserted p.relay := by
  have own : p.canceled = true := by simpa [scopeCanceled, up] using canceled
  obtain ⟨s, old, fits⟩ := h.pullsFit.fits i p here
  exact deserted_iff.mpr ⟨s, old, fits.empty own⟩

theorem deserted_of_canceled (config : BrokerConfig) (limits : Limits) (events later : List Event)
    (up : ((Broker.new config limits).after events).shutdown = false)
    (here : ((Broker.new config limits).after events).pulls[i]? = some p)
    (canceled : ((Broker.new config limits).after events).scopeCanceled p = true) :
    (((Broker.new config limits).after events).after later).Deserted p.relay := by
  have sound := sound_after config limits events
  exact (sound.deserted up here canceled).moves sound (sound.moves_after later)

/-- The pull of a viewer that left stays without viewers when the next one comes. -/
theorem deserted_of_next :
    ∃ p, ((Broker.new {} [.new "g" 2]).after (come 0 ++ go 0)).pulls[0]? = some p ∧
      ((Broker.new {} [.new "g" 2]).after (come 0 ++ go 0)).shutdown = false ∧
      ((Broker.new {} [.new "g" 2]).after (come 0 ++ go 0)).scopeCanceled p = true ∧
      (((Broker.new {} [.new "g" 2]).after (come 0 ++ go 0)).after (come 1)).Deserted p.relay := by
  have up : ((Broker.new {} [.new "g" 2]).after (come 0 ++ go 0)).shutdown = false := by decide
  have started : ((Broker.new {} [.new "g" 2]).after (come 0 ++ go 0)).pulls[0]?.any
      ((Broker.new {} [.new "g" 2]).after (come 0 ++ go 0)).scopeCanceled = true := by decide
  obtain ⟨p, here, canceled⟩ := (Option.any_eq_true _ _).mp started
  exact ⟨p, here, up, canceled, deserted_of_canceled _ _ _ _ up here canceled⟩

end Broker

end Fanout
