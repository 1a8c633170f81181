import Fanout.Proofs.Broker.Event
import Fanout.Proofs.Registry.Change
import Mathlib.Logic.Relation

namespace Fanout

def Request.units (r : Request) : List Units := r.limits.map (⟨·, 1⟩)

def Pull.outline (p : Pull) : Pull := { p with feed := .plain {}, written := 0 }

def Pull.returned (p : Pull) : Bool :=
  match p.state with
  | .starting | .queued _ | .running => false
  | .leaving _ _ _ | .closing _ _ _ | .ended _ => true

def OpenState.guard? : OpenState → Option Nat
  | .queued guard | .acquiring guard _ _ | .disposing guard _ _ => some guard
  | _ => none

def StopState.guard? : StopState → Option Nat
  | .queued guard => some guard
  | _ => none

namespace Broker

variable {b : Broker}

def roster? (b : Broker) (i : Nat) : Option Roster := b.registry.roster? i

def attached (b : Broker) (place : SinkPlace) : Bool :=
  b.registry.relays[place.1]?.any (·.isAttached place.2)

theorem exists_relay_iff {j : Nat} {p : Roster → Prop} :
    (∃ relay, b.registry.relays[j]? = some relay ∧ p relay.roster) ↔
      ∃ s, b.roster? j = some s ∧ p s := by
  simp [roster?, Registry.roster?]

theorem attached_iff {place : SinkPlace} :
    b.attached place = true ↔ ∃ s, b.roster? place.1 = some s ∧ place.2 ∈ s.present := by
  rw [attached, Option.any_eq_true]
  simp only [Relay.isAttached_iff]
  exact exists_relay_iff (p := (place.2 ∈ ·.present))

theorem getElem?_setOpening {i : Nat} {o : Opening} (here : b.openings[i]? = some o) (s : OpenState) :
    (b.setOpening i s).openings[i]? = some ⟨o.request, s⟩ := by
  simp [setOpening, here]

theorem openings_cases {i j : Nat} {r : Request} {o : Opening} {state t : OpenState} (here : b.openings[i]? = some o)
    (new : (b.setOpening i state).openings[j]? = some ⟨r, t⟩) :
    j = i ∧ r = o.request ∧ t = state ∨ j ≠ i ∧ b.openings[j]? = some ⟨r, t⟩ := by
  by_cases same : j = i
  · subst same
    rw [getElem?_setOpening here, Option.some.injEq, Opening.mk.injEq] at new
    exact .inl ⟨rfl, new.1.symm, new.2.symm⟩
  · have differs : i ≠ j := fun h => same h.symm
    exact .inr ⟨same, by simpa [setOpening, differs] using new⟩

theorem opening_other {i j : Nat} (b : Broker) (state : OpenState) (differs : j ≠ i) :
    (b.setOpening i state).openings[j]? = b.openings[j]? := by
  simp [setOpening, Ne.symm differs]

/-- What a departure waits for. -/
def Dismissed (b : Broker) (d : Departure) : Prop :=
  d.readerDropped = true ∨ b.tokenCanceled d.token = true ∨ b.shutdown = true

inductive Denied (b : Broker) (a : Acquisition) (limits : Limits) : OpenError → Prop
  | closed (down : b.shutdown = true) (given : limits = a.abandon b.limits) :
      Denied b a limits .closed
  | capacity (up : b.shutdown = false) {e : LimitError}
      (poll : a.poll b.limits b.now = (limits, .refused e)) : Denied b a limits .capacityExceeded

/-- Nothing happens that another task could be waiting for, except in the pipes and in the feeds. -/
structure Quiet (b b' : Broker) : Prop where
  rosters : b'.registry.roster? = b.registry.roster?
  table : b'.registry.table = b.registry.table
  locks : b'.locks = b.locks
  limits : b'.limits = b.limits
  tokens : b'.tokens = b.tokens
  shutdown : b'.shutdown = b.shutdown
  openings : b'.openings = b.openings
  departures : b'.departures = b.departures
  pulls : b'.pulls.map Pull.outline = b.pulls.map Pull.outline
  stops : ∀ i : Nat, (b'.stops[i]?.bind fun s => s.state.guard?.map (s.key, ·)) =
    b.stops[i]?.bind fun s => s.state.guard?.map (s.key, ·)

theorem pull_of_outlines {b' : Broker} {i : Nat} {p : Pull}
    (outlines : b'.pulls.map Pull.outline = b.pulls.map Pull.outline) (here : b.pulls[i]? = some p) :
    ∃ q, b'.pulls[i]? = some q ∧ q.outline = p.outline := by
  have outline : (b'.pulls.map Pull.outline)[i]? = some p.outline := by
    rw [outlines, List.getElem?_map, here, Option.map_some]
  rwa [List.getElem?_map, Option.map_eq_some_iff] at outline

/-- The moves of callers, who ask, lose interest, sweep and shut down. -/
inductive OuterMove (b : Broker) : Broker → Prop
  | ask (r : Request) : OuterMove b { b with openings := b.openings ++ [{ request := r }] }
  | token (canceled : Bool) : OuterMove b { b with tokens := b.tokens ++ [canceled] }
  | cancel (token : Nat) : OuterMove b { b with tokens := b.tokens.set token true }
  | dropReader (k : Nat) :
      OuterMove b
        { b with departures := b.departures.modify k fun d => { d with readerDropped := true } }
  | sweep : OuterMove b { b with registry := b.registry.evictEmpty.1 }
  | shutDown : OuterMove b { b with shutdown := true, registry := (b.registry.stopAll b.now).1 }
  | drop {i : Nat} {o : Opening} (here : b.openings[i]? = some o) (out : o.state.guard? = none) :
      OuterMove b (b.setOpening i .abandoned)
  | letGo {i guard : Nat} {o : Opening} (here : b.openings[i]? = some o)
      (guarded : o.state = .queued guard ∨ ∃ place e, o.state = .disposing guard place e) :
      OuterMove b ((b.leave guard).setOpening i .abandoned)
  | giveUp {i guard : Nat} {r : Request} {place : SinkPlace} {a : Acquisition} {g : Registry}
      (here : b.openings[i]? = some ⟨r, .acquiring guard place a⟩)
      (changed : Registry.Changed place.1 (·.depart place.2) b.registry g) :
      OuterMove b
        (({ b with limits := a.abandon b.limits, registry := g }.leave guard).setOpening i
          .abandoned)

inductive OpenMove (b : Broker) (i : Nat) : Broker → Prop
  | refuse {r : Request} (error : OpenError) (here : b.openings[i]? = some ⟨r, .starting⟩) :
      OpenMove b i (b.setOpening i (.refused error))
  | queue {r : Request} (here : b.openings[i]? = some ⟨r, .starting⟩)
      (up : b.shutdown = false) :
      OpenMove b i
        ({ b with locks := (b.locks.enter r.key).1 }.setOpening i
          (.queued (b.locks.enter r.key).2))
  | turnAway {guard : Nat} {r : Request} (here : b.openings[i]? = some ⟨r, .queued guard⟩) :
      OpenMove b i ((b.leave guard).setOpening i (.refused .closed))
  | arrive {guard : Nat} {r : Request} {pipe : Pipe} {g : Registry} {place : SinkPlace}
      (deadline : Option Nat) (here : b.openings[i]? = some ⟨r, .queued guard⟩)
      (held : b.locks.holds guard = true) (up : b.shutdown = false)
      (seated : b.registry.Seated r.key pipe g place true) :
      OpenMove b i
        ({ b with registry := g }.setOpening i
          (.acquiring guard place { wanted := r.units, deadline := deadline }))
  | join {guard : Nat} {r : Request} {pipe : Pipe} {g : Registry} {place : SinkPlace}
      (here : b.openings[i]? = some ⟨r, .queued guard⟩) (held : b.locks.holds guard = true)
      (up : b.shutdown = false) (seated : b.registry.Seated r.key pipe g place false) :
      OpenMove b i ({ b with registry := g }.finishOpen i r guard place)
  | wait {guard : Nat} {r : Request} {place : SinkPlace} {a rest : Acquisition} {limits : Limits}
      (here : b.openings[i]? = some ⟨r, .acquiring guard place a⟩)
      (poll : a.poll b.limits b.now = (limits, .waiting rest)) :
      OpenMove b i ({ b with limits := limits }.setOpening i (.acquiring guard place rest))
  | grant {guard : Nat} {r : Request} {place : SinkPlace} {a : Acquisition} {limits : Limits}
      {held : List Units} (here : b.openings[i]? = some ⟨r, .acquiring guard place a⟩)
      (up : b.shutdown = false) (poll : a.poll b.limits b.now = (limits, .granted held)) :
      OpenMove b i
        (({ b with limits := limits }.startPull r place.1 held).finishOpen i r guard place)
  | deny {guard : Nat} {r : Request} {place : SinkPlace} {a : Acquisition} {limits : Limits}
      {error : OpenError} {g : Registry}
      (here : b.openings[i]? = some ⟨r, .acquiring guard place a⟩)
      (denied : b.Denied a limits error)
      (changed : Registry.Changed place.1 (·.unseat place.2) b.registry g) :
      OpenMove b i
        ({ b with limits := limits, registry := g }.setOpening i (.disposing guard place error))
  | denyGone {guard : Nat} {r : Request} {place : SinkPlace} {a : Acquisition} {limits : Limits}
      {error : OpenError} {g : Registry}
      (here : b.openings[i]? = some ⟨r, .acquiring guard place a⟩)
      (denied : b.Denied a limits error)
      (gone : ∀ s, b.roster? place.1 = some s → place.2 ∉ s.present)
      (changed : Registry.Changed place.1 Roster.retireIfEmpty b.registry g) :
      OpenMove b i
        (({ b with limits := limits, registry := g }.leave guard).setOpening i (.refused error))
  | dispose {guard : Nat} {r : Request} {place : SinkPlace} {error : OpenError} {g : Registry}
      (here : b.openings[i]? = some ⟨r, .disposing guard place error⟩)
      (changed : Registry.Changed place.1 Roster.retireIfEmpty b.registry g) :
      OpenMove b i (({ b with registry := g }.leave guard).setOpening i (.refused error))

inductive DepartMove (b : Broker) (i : Nat) : Broker → Prop
  | queue {d : Departure} (here : b.departures[i]? = some d)
      (watching : d.state = .watching) (dismissed : b.Dismissed d) :
      DepartMove b i
        ({ b with locks := (b.locks.enter d.key).1 }.setDeparture i
          (.queued (b.locks.enter d.key).2))
  | depart {guard : Nat} {d : Departure} {state : DepartureState} {g : Registry}
      (here : b.departures[i]? = some d) (queued : d.state = .queued guard)
      (held : b.locks.holds guard = true)
      (changed : Registry.Changed d.place.1 (·.depart d.place.2) b.registry g)
      (left : state = .closing ∨ state = .ended) :
      DepartMove b i (({ b with registry := g }.leave guard).setDeparture i state)
  | done {d : Departure} (here : b.departures[i]? = some d)
      (closing : d.state = .closing) : DepartMove b i (b.setDeparture i .ended)

/-- The moves of a pull and of its watcher. -/
inductive PullMove (b : Broker) (i : Nat) : Broker → Prop
  | queue {p : Pull} (here : b.pulls[i]? = some p) (starting : p.state = .starting) :
      PullMove b i
        ({ b with locks := (b.locks.enter p.key).1 }.setPull i (.queued (b.locks.enter p.key).2))
  | subscribe {guard : Nat} {p : Pull} {s : Roster} {g : Registry}
      (here : b.pulls[i]? = some p) (queued : p.state = .queued guard)
      (held : b.locks.holds guard = true) (old : b.roster? p.relay = some s)
      (changed : Registry.Changed p.relay Roster.subscribe b.registry g) :
      PullMove b i
        (({ b with registry := g }.leave guard).updatePull i fun q =>
          { q with listener := s.signals.length + 1, watcher := .waiting, state := .running })
  | endFeed {p : Pull} {g : Registry} (ending : Ending) (canceled : Bool)
      (here : b.pulls[i]? = some p) (running : p.state = .running)
      (changed : Registry.Changed p.relay (fun s => s.retire.withdraw p.listener) b.registry g) :
      PullMove b i
        ({ b with
            registry := g
            limits := Limits.releaseAll b.limits p.held
            locks := (b.locks.enter p.key).1 }.updatePull i fun q =>
          { q with
            held := []
            watcher := .ended
            state := .leaving (b.locks.enter p.key).2 ending canceled })
  | close {guard : Nat} {p : Pull} {ending : Ending} {canceled : Bool} {g : Registry}
      (sinks : List SinkPlace) (here : b.pulls[i]? = some p)
      (leaving : p.state = .leaving guard ending canceled) (held : b.locks.holds guard = true)
      (changed : Registry.Changed p.relay Roster.shut b.registry g) :
      PullMove b i
        (({ b with registry := g }.leave guard).setPull i (.closing sinks ending canceled))
  | finish {p : Pull} {sinks : List SinkPlace} {ending : Ending} {canceled : Bool}
      (outcome : Outcome) (here : b.pulls[i]? = some p)
      (closing : p.state = .closing sinks ending canceled) :
      PullMove b i (b.setPull i (.ended outcome))
  | notice {p : Pull} (here : b.pulls[i]? = some p) (ready : b.watcherReady p = true) :
      PullMove b i
        (b.updatePull i fun q =>
          { q with watcher := .ended, canceled := q.canceled || b.pullSignal q == .fired })

inductive StopMove (b : Broker) (i : Nat) : Broker → Prop
  | queue {s : Stop} (here : b.stops[i]? = some s) (starting : s.state = .starting) :
      StopMove b i
        ({ b with locks := (b.locks.enter s.key).1 }.setStop i (.queued (b.locks.enter s.key).2))
  | leave {guard : Nat} {s : Stop} {state : StopState} (here : b.stops[i]? = some s)
      (queued : s.state = .queued guard) (out : state.guard? = none) :
      StopMove b i ((b.leave guard).setStop i state)
  | stop {guard relay : Nat} {s : Stop} {g : Registry} {state : StopState}
      (here : b.stops[i]? = some s) (queued : s.state = .queued guard)
      (held : b.locks.holds guard = true) (found : b.registry.find? s.key = some relay)
      (changed : Registry.Changed relay Roster.shut b.registry g) (out : state.guard? = none) :
      StopMove b i (({ b with registry := g }.leave guard).setStop i state)

theorem OuterMove.openings {b' : Broker} {j : Nat} {r : Request} {s : OpenState}
    (move : b.OuterMove b') (new : b'.openings[j]? = some ⟨r, s⟩) :
    b.openings[j]? = some ⟨r, s⟩ ∨ s = .starting ∨ s = .abandoned := by
  cases move with
  | ask =>
    rcases getElem?_append_cases new with old | ⟨-, same⟩
    · exact .inl old
    · cases same
      exact .inr (.inl rfl)
  | drop here _ | letGo here _ | giveUp here _ =>
    rcases openings_cases here new with ⟨-, -, same⟩ | ⟨-, old⟩
    · exact .inr (.inr same)
    · exact .inl old
  | token | cancel | dropReader | sweep | shutDown => exact .inl new

theorem OpenMove.other {b' : Broker} {i j : Nat} (move : b.OpenMove i b') (differs : j ≠ i) :
    b'.openings[j]? = b.openings[j]? := by
  cases move
  all_goals exact opening_other _ _ differs

inductive Move (b : Broker) : Broker → Prop
  | quiet {b' : Broker} (same : b.Quiet b') : Move b b'
  | outer {b' : Broker} (move : b.OuterMove b') : Move b b'
  | opening {i : Nat} {b' : Broker} (move : b.OpenMove i b') : Move b b'
  | departure {i : Nat} {b' : Broker} (move : b.DepartMove i b') : Move b b'
  | pull {i : Nat} {b' : Broker} (move : b.PullMove i b') : Move b b'
  | stop {i : Nat} {b' : Broker} (move : b.StopMove i b') : Move b b'

abbrev Moves : Broker → Broker → Prop := Relation.ReflTransGen Move

abbrev Chain (m : Broker → Broker → Prop) : Broker → Broker → Prop :=
  Relation.ReflTransGen fun b b' => b.Quiet b' ∨ m b b'

end Broker

def Event.mover : Event → Broker → Broker → Prop
  | .run (.opening i) => (·.OpenMove i ·)
  | .run (.departure i) => (·.DepartMove i ·)
  | .run (.pull i) | .run (.watcher i) | .turn i _ => (·.PullMove i ·)
  | .run (.stop i) | .abandon (.stop i) => (·.StopMove i ·)
  | _ => Broker.OuterMove

end Fanout
