import Fanout.Broker.Basic

namespace Fanout.Broker

inductive Attached where
  | shutDown
  | as (place : SinkPlace) (first : Bool)
  | never
deriving DecidableEq, Inhabited

/-- Attaches a viewer to the relay of a key, replacing relays that refuse. -/
def attach (b : Broker) (key : StreamKey) : Nat → Broker × Attached
  | 0 => (b, .never)
  | attempts + 1 =>
    if b.shutdown then (b, .shutDown)
    else
      let (registry, i, _) := b.registry.getOrCreate key
      let pipe : Pipe := { capacity := max b.config.pipeCapacity 1 }
      match registry.relays[i]?.bind (·.add pipe) with
      | some (r, sink, first) =>
        ({ b with registry := registry.updateRelay i fun _ => r }, .as (i, sink) first)
      | none => attach { b with registry := (registry.removeIfSame key i).1 } key attempts

def dropPipe (b : Broker) (place : SinkPlace) : Broker :=
  b.updateSink place Sink.dropReader

def endRefusal (b : Broker) (i : Nat) (key : StreamKey) (guard : Nat) (place : SinkPlace)
    (error : OpenError) : Broker :=
  (((b.retireIfEmpty key place.1).dropPipe place).leave guard).setOpening i (.refused error)

/-- Takes the viewer off again, because the pull could not be started. -/
def refuse (b : Broker) (i : Nat) (key : StreamKey) (guard : Nat) (place : SinkPlace)
    (error : OpenError) : Broker :=
  let b :=
    if error.isTemporary then { b with capacityRejections := b.capacityRejections + 1 } else b
  match b.detach place with
  | (b, true) =>
    (b.updateSink place (·.beginClose 0 b.now)).setOpening i (.disposing guard place error)
  | (b, false) => b.endRefusal i key guard place error

/-- The viewer has a reader from here on, and a departure watches it. -/
def finishOpen (b : Broker) (i : Nat) (r : Request) (guard : Nat) (place : SinkPlace) : Broker :=
  let b := b.leave guard
  let departure : Departure := { key := r.key, place := place, token := r.token }
  { b with departures := b.departures ++ [departure] }.setOpening i
    (.opened place b.departures.length)

def startPull (b : Broker) (r : Request) (relay : Nat) (held : List Units) : Broker :=
  let pull : Pull := { key := r.key, relay := relay, feed := r.feed, held := held }
  { b with pulls := b.pulls ++ [pull], pullsStarted := b.pullsStarted + 1 }

def acquire (b : Broker) (i : Nat) (r : Request) (guard : Nat) (place : SinkPlace)
    (a : Acquisition) : Broker :=
  match a.poll b.limits b.now with
  | (limits, .waiting a) =>
    { b with limits := limits }.setOpening i (.acquiring guard place a)
  | (limits, .granted held) =>
    ({ b with limits := limits }.startPull r place.1 held).finishOpen i r guard place
  | (limits, .refused _) =>
    { b with limits := limits }.refuse i r.key guard place .capacityExceeded

def enterOpen (b : Broker) (i : Nat) (r : Request) (guard : Nat) : Broker :=
  match b.attach r.key (b.registry.relays.length + 2) with
  | (b, .as place true) =>
    b.acquire i r guard place
      { wanted := r.limits.map (⟨·, 1⟩), deadline := some (b.now + b.config.acquireTimeout) }
  | (b, .as place false) => b.finishOpen i r guard place
  | (b, _) => (b.leave guard).setOpening i (.refused .closed)

def startOpen (b : Broker) (i : Nat) (r : Request) : Broker :=
  if r.key.isBlank then b.setOpening i (.refused (.invalidKey r.key))
  else if b.shutdown then b.setOpening i (.refused .closed)
  else
    let (b, guard) := { b with opens := b.opens + 1 }.enter r.key
    if b.locks.holds guard then b.enterOpen i r guard else b.setOpening i (.queued guard)

def openReady (b : Broker) (o : Opening) : Bool :=
  match o.state with
  | .starting => true
  | .queued guard => b.locks.holds guard
  | .acquiring _ _ a => b.shutdown || a.ready b.limits b.now
  | .disposing _ place _ => b.registry.closeEnded [place]
  | _ => false

def runOpen (b : Broker) (i : Nat) : Broker :=
  match b.openings[i]? with
  | none => b
  | some o =>
    match o.state with
    | .starting => b.startOpen i o.request
    | .queued guard => b.enterOpen i o.request guard
    | .acquiring guard place a =>
      if b.shutdown then
        { b with limits := a.abandon b.limits }.refuse i o.request.key guard place .closed
      else b.acquire i o.request guard place a
    | .disposing guard place error => b.endRefusal i o.request.key guard place error
    | _ => b

def requestOpen (b : Broker) (r : Request) : Broker × Nat :=
  ({ b with openings := b.openings ++ [{ request := r }] }, b.openings.length)

def dropReader (b : Broker) (place : SinkPlace) (departure : Nat) : Broker :=
  let b := b.dropPipe place
  { b with departures := b.departures.modify departure fun d => { d with readerDropped := true } }

def abandonOpen (b : Broker) (i : Nat) : Broker :=
  match b.openings[i]? with
  | none => b
  | some o =>
    match o.state with
    | .starting => b.setOpening i .abandoned
    | .queued guard => (b.leave guard).setOpening i .abandoned
    | .acquiring guard place a =>
      let b := { b with limits := a.abandon b.limits }
      let b :=
        match b.detach place with
        | (b, true) => b.updateSink place Sink.drop
        | (b, false) => b
      let b := { b with registry := (b.registry.retireEntry place.1).1 }
      ((b.dropPipe place).leave guard).setOpening i .abandoned
    | .disposing guard place _ =>
      (((b.updateSink place Sink.abandonClose).dropPipe place).leave guard).setOpening i .abandoned
    | .opened place departure => (b.dropReader place departure).setOpening i .abandoned
    | .refused _ | .abandoned => b.setOpening i .abandoned

def openPending (b : Broker) (i : Nat) : Bool :=
  match b.openings[i]?.map Opening.state with
  | some (.refused _) | some (.opened _ _) | some .abandoned | none => false
  | _ => true

def readerPlace (b : Broker) (i : Nat) : Option SinkPlace :=
  match b.openings[i]?.map Opening.state with
  | some (.opened place _) => some place
  | _ => none

def describeReader (key : StreamKey) (place : SinkPlace) : String :=
  "StreamReader \x7b key: StreamKey(" ++ Text.quoted key.text ++ "), sink_id: " ++
    toString place.2 ++ " \x7d"

def cancelToken (b : Broker) (token : Nat) : Broker :=
  { b with tokens := b.tokens.set token true }

end Fanout.Broker
