import Fanout.Broker.Basic

namespace Fanout.Broker

def scopeCanceled (b : Broker) (p : Pull) : Bool := p.canceled || b.shutdown

/-- A feed that panics has failed, also when it was canceled. -/
def outcome (ending : Ending) (canceled : Bool) : Outcome × FeedResult :=
  match ending with
  | .returned result => (.classify result canceled, result)
  | .panicked => (.failed, .error (.failed "streamer panicked"))

def finishPull (b : Broker) (i : Nat) (p : Pull) (ending : Ending) (canceled : Bool) : Broker :=
  let (outcome, result) := outcome ending canceled
  let report : Report := ⟨p.key, p.feed.label, outcome, p.written, result⟩
  let failed := if outcome = .failed then b.pullsFailed + 1 else b.pullsFailed
  { b with pullsFailed := failed, reports := b.reports ++ [report] }.setPull i (.ended outcome)

/-- Takes the relay out of the table and closes it, now that the key's lock is held. -/
def enterLeaving (b : Broker) (i : Nat) (p : Pull) (guard : Nat) (ending : Ending)
    (canceled : Bool) : Broker :=
  let b := { b with registry := (b.registry.removeIfSame p.key p.relay).1 }.leave guard
  let (registry, sinks) := b.registry.beginClose p.relay b.now
  let b := { b with registry := registry }
  if registry.closeEnded sinks then b.finishPull i p ending canceled
  else b.setPull i (.closing sinks ending canceled)

/-- The feed has ended: nobody may join any more, and the units go back at once. -/
def endFeed (b : Broker) (i : Nat) (p : Pull) (ending : Ending) : Broker :=
  let canceled := b.scopeCanceled p
  let b := b.updateRelay p.relay fun r => r.retire.withdraw p.listener
  let b := { b with limits := Limits.releaseAll b.limits p.held }
  let p := { p with held := [], watcher := .ended }
  let (b, guard) := (b.updatePull i fun _ => p).enter p.key
  if b.locks.holds guard then b.enterLeaving i p guard ending canceled
  else b.setPull i (.leaving guard ending canceled)

def takeTurn (b : Broker) (i : Nat) (p : Pull) (turn : Turn) : Broker :=
  let b := b.updateRelay p.relay fun r => (r.writeAll turn.writes).1
  let p := { p with written := p.written + sum (turn.writes.map List.length) }
  let b := b.updatePull i fun _ => p
  match turn.ending with
  | none => b
  | some ending => b.endFeed i p ending

def runFeed (b : Broker) (i : Nat) (p : Pull) : Broker :=
  let (feed, turn) := p.feed.resume (b.scopeCanceled p) b.now
  b.takeTurn i { p with feed := feed } turn

/-- Subscribes to the emptiness of the relay and starts the feed, now that the key's lock is
held. -/
def enterPull (b : Broker) (i : Nat) (p : Pull) (guard : Nat) : Broker :=
  match b.registry.relays[p.relay]? with
  | none => b
  | some r =>
    let (r, listener) := r.subscribe
    let b := (b.updateRelay p.relay fun _ => r).leave guard
    b.runFeed i { p with listener := listener, watcher := .waiting, state := .running }

def pullReady (b : Broker) (p : Pull) : Bool :=
  match p.state with
  | .starting => true
  | .queued guard | .leaving guard _ _ => b.locks.holds guard
  | .running => p.feed.ready (b.scopeCanceled p) b.now
  | .closing sinks _ _ => b.registry.closeEnded sinks
  | .ended _ => false

def runPull (b : Broker) (i : Nat) : Broker :=
  match b.pulls[i]? with
  | none => b
  | some p =>
    match p.state with
    | .starting =>
      let (b, guard) := b.enter p.key
      if b.locks.holds guard then b.enterPull i p guard else b.setPull i (.queued guard)
    | .queued guard => b.enterPull i p guard
    | .running => b.runFeed i p
    | .leaving guard ending canceled => b.enterLeaving i p guard ending canceled
    | .closing _ ending canceled => b.finishPull i p ending canceled
    | .ended _ => b

def pullSignal (b : Broker) (p : Pull) : Signal :=
  (b.registry.relays[p.relay]?.bind (·.signal? p.listener)).getD .pending

def watcherReady (b : Broker) (p : Pull) : Bool :=
  p.watcher == .waiting && b.pullSignal p != .pending

/-- The watcher cancels the pull if the subscription has fired. -/
def runWatcher (b : Broker) (i : Nat) : Broker :=
  match b.pulls[i]? with
  | none => b
  | some p =>
    if b.watcherReady p then
      b.updatePull i fun p =>
        { p with watcher := .ended, canceled := p.canceled || b.pullSignal p == .fired }
    else b

def scripts (b : Broker) : List Script :=
  b.pulls.filterMap fun p =>
    match p.feed with
    | .script s => if s.begun then some s else none
    | _ => none

def command (b : Broker) (name : String) (c : ScriptCommand) : Broker × Bool :=
  let isIt (p : Pull) : Bool :=
    match p.feed with
    | .script s => s.name == name && s.active
    | _ => false
  match b.pulls.findIdx? isIt with
  | none => (b, false)
  | some i =>
    (b.updatePull i fun p =>
      match p.feed with
      | .script s => { p with feed := .script (s.send c) }
      | _ => p, true)

def pullEnded (p : Pull) : Bool :=
  match p.state with
  | .ended _ => true
  | _ => false

end Fanout.Broker
