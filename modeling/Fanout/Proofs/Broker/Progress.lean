import Fanout.Proofs.Broker.Owner
import Fanout.Proofs.Broker.Ready

namespace Fanout

namespace Broker

variable {b : Broker} {i guard : Nat} {task : BrokerTask}

def isFeed (b : Broker) : BrokerTask → Bool
  | .pull i => b.pulls[i]?.any fun p => (p.state matches .running)
  | _ => false

/-- Somebody can go on without a feed. -/
def CanProceed (b : Broker) : Prop := ∃ task ∈ b.ready, b.isFeed task = false

namespace CanProceed

theorem opening {o : Opening} (here : b.openings[i]? = some o) (ready : b.openReady o = true) :
    b.CanProceed := by
  have member : BrokerTask.opening i ∈ b.ready := mem_ready (by simp [isReady, here, ready])
  exact ⟨.opening i, member, rfl⟩

theorem departure {d : Departure} (here : b.departures[i]? = some d)
    (ready : b.departureReady d = true) : b.CanProceed := by
  have member : BrokerTask.departure i ∈ b.ready := mem_ready (by simp [isReady, here, ready])
  exact ⟨.departure i, member, rfl⟩

theorem pull {p : Pull} (here : b.pulls[i]? = some p) (ready : b.pullReady p = true)
    (other : p.state ≠ .running) : b.CanProceed := by
  have member : BrokerTask.pull i ∈ b.ready := mem_ready (by simp [isReady, here, ready])
  refine ⟨.pull i, member, ?_⟩
  cases state : p.state <;> simp [isFeed, here, state] at other ⊢

theorem stop {s : Stop} (here : b.stops[i]? = some s) (ready : b.stopReady s = true) :
    b.CanProceed := by
  have member : BrokerTask.stop i ∈ b.ready := mem_ready (by simp [isReady, here, ready])
  exact ⟨.stop i, member, rfl⟩

/-- Either the close of a sink that is cut has ended, or it can be helped on. -/
theorem sink {place : SinkPlace} (cut : b.registry.Cut place) :
    b.registry.closeEnded [place] = true ∨ b.CanProceed := by
  obtain ⟨s, here, cut⟩ := cut
  cases idle : s.ready with
  | true =>
    have member : BrokerTask.delivery place ∈ b.ready := mem_ready (by simp [isReady, here, idle])
    exact .inr ⟨.delivery place, member, rfl⟩
  | false =>
    cases still : s.closeReady b.now with
    | true =>
      have member : BrokerTask.closer place ∈ b.ready := mem_ready (by simp [isReady, here, still])
      exact .inr ⟨.closer place, member, rfl⟩
    | false =>
      left
      simpa [Registry.closeEnded, here] using cut.ended b.now idle still

end CanProceed

theorem Minded.canProceed_of_holder (h : b.Minded) (down : b.shutdown = true) {s : Stake}
    (staked : b.stake? task = some s) (held : b.locks.holds s.guard = true) : b.CanProceed := by
  cases task with
  | opening i =>
    obtain ⟨o, here, stake⟩ := Option.bind_eq_some_iff.mp staked
    cases state : o.state with
    | queued guard =>
      rw [Opening.stake?, state] at stake
      cases stake
      exact .opening here (by rw [openReady, state]; exact held)
    | acquiring guard place a => exact .opening here (by simp [openReady, state, down])
    | disposing guard place error =>
      have cut := h.disposing i o.request guard place error (by rw [here, ← state])
      rcases CanProceed.sink cut with ended | canProceed
      · exact .opening here (by rw [openReady, state]; exact ended)
      · exact canProceed
    | _ =>
      rw [Opening.stake?, state] at stake
      cases stake
  | departure i =>
    obtain ⟨d, here, stake⟩ := Option.bind_eq_some_iff.mp staked
    cases state : d.state with
    | queued guard =>
      rw [Departure.stake?, state] at stake
      cases stake
      exact .departure here (by rw [departureReady, state]; exact held)
    | _ =>
      rw [Departure.stake?, state] at stake
      cases stake
  | pull i =>
    obtain ⟨p, here, stake⟩ := Option.bind_eq_some_iff.mp staked
    cases state : p.state with
    | queued guard | leaving guard ending canceled =>
      rw [Pull.stake?, state] at stake
      cases stake
      exact .pull here (by rw [pullReady, state]; exact held) (by simp [state])
    | _ =>
      rw [Pull.stake?, state] at stake
      cases stake
  | stop i =>
    obtain ⟨t, here, stake⟩ := Option.bind_eq_some_iff.mp staked
    cases state : t.state with
    | queued guard =>
      rw [Stop.stake?, state] at stake
      cases stake
      exact .stop here (by rw [stopReady, state]; exact held)
    | _ =>
      rw [Stop.stake?, state] at stake
      cases stake
  | _ => cases staked

theorem Minded.canProceed (h : b.Minded) (locked : b.Locked) (owned : b.Owned) (down : b.shutdown = true)
    {o : Opening} (here : b.openings[i]? = some o) (pending : o.state.pending = true) :
    b.CanProceed := by
  cases stake : o.stake? with
  | none =>
    cases state : o.state with
    | starting => exact .opening here (by rw [openReady, state])
    | queued | acquiring | disposing =>
      rw [Opening.stake?, state] at stake
      cases stake
    | refused | opened | abandoned =>
      rw [state] at pending
      cases pending
  | some s =>
    have staked : b.stake? (.opening i) = some s := (stake?_of_opening here).trans stake
    obtain ⟨g, living, -⟩ := locked.alive _ s staked
    -- the first of all guards has its lock, and belongs to somebody
    cases guards : b.locks.guards with
    | nil =>
      rw [guards] at living
      cases living
    | cons first rest =>
      have held := locked.valid.holds_head guards
      obtain ⟨task, t, staked, guard, -⟩ := owned first (by simp [guards])
      exact h.canProceed_of_holder down staked (by rwa [guard])

end Broker

end Fanout
