import Fanout.Proofs.Broker.Owner
import Fanout.Proofs.Broker.Ready

namespace Fanout

def OpenState.error? : OpenState → Option OpenError
  | .disposing _ _ error | .refused error => some error
  | _ => none

namespace Broker

variable {b b' : Broker} {i guard : Nat} {key : StreamKey} {place : SinkPlace} {o o' : Opening}
  {r : Request} {a : Acquisition} {error : OpenError} {e : Event}

theorem error?_of_set {m : Broker} {state : OpenState} (new : (m.setOpening i state).openings[i]? = some o) :
    o.state.error? = state.error? := congrArg OpenState.error? (state_of_setOpening new)

theorem error?_of_refuse (new : (b.refuse i key guard place error).openings[i]? = some o) :
    o.state.error? = some error := by
  rw [refuse_eq] at new
  generalize b.capacityRejections + _ = n at new
  rcases detach_or { b with capacityRejections := n } place with ⟨_, -, -, detached⟩ | detached
  · rw [detached] at new
    exact error?_of_set new
  · rw [detached] at new
    exact error?_of_set new

/-- The errors of an open whose key is not at fault. -/
def Faultless (o : Opening) : Prop := ∀ key, o.state.error? ≠ some (.invalidKey key)

theorem Faultless.of_error? (same : o.state.error? = some error) (other : ∀ key, error ≠ .invalidKey key) :
    Faultless o := by
  intro key wrong
  exact other key (Option.some.inj (same.symm.trans wrong))

theorem Faultless.of_none (none : o.state.error? = none) : Faultless o := by
  intro key wrong
  rw [none] at wrong
  cases wrong

theorem faultless_acquire (new : (b.acquire i r guard place a).openings[i]? = some o) : Faultless o := by
  unfold acquire at new
  split at new
  · exact .of_none (error?_of_set new)
  · exact .of_none (error?_of_set new)
  · exact .of_error? (error?_of_refuse new) nofun

theorem faultless_enterOpen (new : (b.enterOpen i r guard).openings[i]? = some o) : Faultless o := by
  unfold enterOpen at new
  split at new
  · exact faultless_acquire new
  · exact .of_none (error?_of_set new)
  · exact .of_error? (error?_of_set new) nofun

theorem faultless_startOpen (solid : r.key.isBlank = false)
    (new : (b.startOpen i r).openings[i]? = some o) : Faultless o := by
  unfold startOpen at new
  rw [solid, if_neg Bool.false_ne_true] at new
  split at new
  · exact .of_error? (error?_of_set new) nofun
  · dsimp only at new
    split at new
    · exact faultless_enterOpen new
    · exact .of_none (error?_of_set new)

theorem faultless_runOpen (here : b.openings[i]? = some o) (solid : o.request.key.isBlank = false)
    (faultless : Faultless o) (new : (b.runOpen i).openings[i]? = some o') : Faultless o' := by
  unfold runOpen at new
  rw [here] at new
  dsimp only at new
  cases state : o.state with
  | starting =>
    rw [state] at new
    exact faultless_startOpen solid new
  | queued guard =>
    rw [state] at new
    exact faultless_enterOpen new
  | acquiring guard place a =>
    rw [state] at new
    dsimp only at new
    split at new
    · exact .of_error? (error?_of_refuse new) nofun
    · exact faultless_acquire new
  | disposing guard place error =>
    rw [state] at new
    refine .of_error? (error?_of_set new) fun key wrong => faultless key ?_
    rw [state, ← wrong]
    rfl
  | refused error | opened place k | abandoned =>
    rw [state] at new
    dsimp only at new
    cases here.symm.trans new
    exact faultless

/-- The open asks for this, and is not going to be refused for its key. -/
def Asks (b : Broker) (i : Nat) (r : Request) : Prop :=
  ∃ state, b.openings[i]? = some ⟨r, state⟩ ∧ Faultless ⟨r, state⟩

theorem Asks.step (h : b.Asks i r) (solid : r.key.isBlank = false) (sound : b.Sound) (e : Event) :
    (b.step e).Asks i r := by
  obtain ⟨state, here, faultless⟩ := h
  obtain ⟨state', there, -⟩ := sound.opening_step e here
  refine ⟨state', there, ?_⟩
  cases own : e.isOf i with
  | true =>
    rcases Event.isOf_iff.mp own with rfl | rfl
    · simp only [Broker.step] at there
      split at there
      · exact faultless_runOpen here solid faultless there
      · cases here.symm.trans there
        exact faultless
    · cases (getElem?_abandonOpen here).symm.trans there
      exact .of_none rfl
  | false =>
    rcases sound.openings_foreign own with same | ⟨missing, -⟩
    · cases here.symm.trans (same.symm.trans there)
      exact faultless
    · rw [here] at missing
      cases missing

/-- However long an open is waited for, it is not refused for its key. -/
theorem Asks.waited (h : b.Asks i r) (solid : r.key.isBlank = false) (sound : b.Sound)
    (minded : b.Minded) (steps : machine.Steps b b') : b'.Asks i r := by
  have kept : b'.Sound ∧ b'.Minded ∧ b'.Asks i r := by
    induction steps with
    | refl => exact ⟨sound, minded, h⟩
    | tail _ last ih =>
      obtain ⟨sound, minded, asks⟩ := ih
      obtain ⟨e, -, rfl⟩ := event_of_machine minded.holdsAttached last
      exact ⟨sound.step e, minded.step sound e, asks.step solid sound e⟩
  exact kept.2.2

end Broker

end Fanout
