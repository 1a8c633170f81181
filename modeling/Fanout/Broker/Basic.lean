import Fanout.Broker.KeyLocks
import Fanout.Feed.Basic
import Fanout.Limit.Acquisition
import Fanout.Registry
import Fanout.Text.Quoted

namespace Fanout

structure BrokerConfig where
  relay : RelayConfig := {}
  acquireTimeout : Nat := 5000
  pipeCapacity : Nat := 256 * 1024
deriving DecidableEq, Inhabited

inductive OpenError where
  | capacityExceeded
  | invalidKey (key : StreamKey)
  | closed
deriving DecidableEq, Inhabited

namespace OpenError

def message : OpenError → String
  | .capacityExceeded => "Capacity exceeded: no upstream slot available"
  | .invalidKey key => "Invalid stream key: " ++ Text.quoted key.text
  | .closed => "Broker closed"

def isTemporary : OpenError → Bool
  | .capacityExceeded => true
  | _ => false

end OpenError

structure Request where
  key : StreamKey
  feed : Feed
  limits : List Nat := []
  token : Nat
deriving Inhabited

abbrev SinkPlace := Nat × Nat

inductive OpenState where
  | starting
  | queued (guard : Nat)
  /-- Attached as the first viewer; waits for units of the limits. -/
  | acquiring (guard : Nat) (place : SinkPlace) (acquisition : Acquisition)
  /-- Detached again; waits for the end of its sink. -/
  | disposing (guard : Nat) (place : SinkPlace) (error : OpenError)
  | refused (error : OpenError)
  | opened (place : SinkPlace) (departure : Nat)
  | abandoned
deriving Inhabited

structure Opening where
  request : Request
  state : OpenState := .starting
deriving Inhabited

inductive DepartureState where
  | watching
  | queued (guard : Nat)
  | closing
  | ended
deriving DecidableEq, Inhabited

/-- The task that takes a viewer off the relay. -/
structure Departure where
  key : StreamKey
  place : SinkPlace
  token : Nat
  readerDropped : Bool := false
  state : DepartureState := .watching
deriving DecidableEq, Inhabited

/-- The task that cancels a pull once its relay has no viewers. -/
inductive WatcherState where
  | unborn
  | waiting
  | ended
deriving DecidableEq, Inhabited

inductive PullState where
  | starting
  | queued (guard : Nat)
  | running
  | leaving (guard : Nat) (ending : Ending) (canceled : Bool)
  | closing (sinks : List SinkPlace) (ending : Ending) (canceled : Bool)
  | ended (outcome : Outcome)
deriving Inhabited

/-- The task that runs a feed into a relay. -/
structure Pull where
  key : StreamKey
  relay : Nat
  feed : Feed
  held : List Units
  canceled : Bool := false
  listener : Nat := 0
  watcher : WatcherState := .unborn
  written : Nat := 0
  state : PullState := .starting
deriving Inhabited

inductive StopState where
  | starting
  | queued (guard : Nat)
  | closing (sinks : List SinkPlace)
  | ended (found : Bool)
  | abandoned
deriving DecidableEq, Inhabited

structure Stop where
  key : StreamKey
  state : StopState := .starting
deriving DecidableEq, Inhabited

inductive CloseState where
  | starting
  | closing (sinks : List SinkPlace)
  | draining
  | ended
  | abandoned
deriving DecidableEq, Inhabited

inductive SweeperState where
  | starting
  | ticking (next : Nat)
  | ended
  | panicked
deriving DecidableEq, Inhabited

structure Sweeper where
  period : Nat
  state : SweeperState := .starting
deriving DecidableEq, Inhabited

structure Report where
  key : StreamKey
  label : String
  outcome : Outcome
  written : Nat
  result : FeedResult
deriving Inhabited

structure Broker where
  config : BrokerConfig := {}
  now : Nat := 0
  registry : Registry := {}
  locks : KeyLocks := {}
  limits : Limits := []
  tokens : List Bool := []
  shutdown : Bool := false
  openings : List Opening := []
  departures : List Departure := []
  pulls : List Pull := []
  stops : List Stop := []
  closes : List CloseState := []
  sweepers : List Sweeper := []
  opens : Nat := 0
  pullsStarted : Nat := 0
  pullsFailed : Nat := 0
  capacityRejections : Nat := 0
  reports : List Report := []
deriving Inhabited

structure BrokerStats where
  activeRelays : Nat
  activeViewers : Nat
  opens : Nat
  pullsStarted : Nat
  pullsFailed : Nat
  capacityRejections : Nat
deriving DecidableEq

namespace Broker

def new (config : BrokerConfig) (limits : Limits) : Broker :=
  { config := config, registry := { config := config.relay }, limits := limits }

def setOpening (b : Broker) (i : Nat) (state : OpenState) : Broker :=
  { b with openings := b.openings.modify i fun o => { o with state := state } }

def setDeparture (b : Broker) (i : Nat) (state : DepartureState) : Broker :=
  { b with departures := b.departures.modify i fun d => { d with state := state } }

def updatePull (b : Broker) (i : Nat) (f : Pull → Pull) : Broker :=
  { b with pulls := b.pulls.modify i f }

def setPull (b : Broker) (i : Nat) (state : PullState) : Broker :=
  b.updatePull i fun p => { p with state := state }

def setStop (b : Broker) (i : Nat) (state : StopState) : Broker :=
  { b with stops := b.stops.modify i fun s => { s with state := state } }

def setClose (b : Broker) (i : Nat) (state : CloseState) : Broker :=
  { b with closes := b.closes.modify i fun _ => state }

def setSweeper (b : Broker) (i : Nat) (state : SweeperState) : Broker :=
  { b with sweepers := b.sweepers.modify i fun s => { s with state := state } }

def enter (b : Broker) (key : StreamKey) : Broker × Nat :=
  let (locks, guard) := b.locks.enter key
  ({ b with locks := locks }, guard)

def leave (b : Broker) (guard : Nat) : Broker := { b with locks := b.locks.leave guard }

def updateRelay (b : Broker) (i : Nat) (f : Relay → Relay) : Broker :=
  { b with registry := b.registry.updateRelay i f }

def updateSink (b : Broker) (place : SinkPlace) (f : Sink → Sink) : Broker :=
  { b with registry := b.registry.updateSink place f }

def detach (b : Broker) (place : SinkPlace) : Broker × Bool :=
  match b.registry.relays[place.1]?.bind (·.detach place.2) with
  | some r => (b.updateRelay place.1 fun _ => r, true)
  | none => (b, false)

/-- Retires a relay that has no viewers. A relay that is closed leaves the table, unless a newer
one has taken its key. -/
def retireIfEmpty (b : Broker) (key : StreamKey) (i : Nat) : Broker :=
  let (registry, closed) := b.registry.retireEntry i
  { b with registry := if closed then (registry.removeIfSame key i).1 else registry }

def tokenCanceled (b : Broker) (token : Nat) : Bool := b.tokens[token]?.getD false

def stats (b : Broker) : BrokerStats :=
  let relays := b.registry.stats
  { activeRelays := relays.length
    activeViewers := sum (relays.map (·.clients))
    opens := b.opens
    pullsStarted := b.pullsStarted
    pullsFailed := b.pullsFailed
    capacityRejections := b.capacityRejections }

end Broker

namespace Report

def level (r : Report) : String :=
  match r.outcome with
  | .completed | .canceled => "INFO"
  | .empty => "WARN"
  | .failed => "ERROR"

def text (r : Report) : String :=
  let head := "[StreamBroker] Upstream " ++ r.key.text
  match r.outcome, r.result with
  | .completed, .ok n => head ++ " completed: " ++ toString n ++ " bytes"
  | .empty, _ => head ++ " (" ++ r.label ++ ") ended without producing data"
  | .canceled, _ => head ++ " canceled after " ++ toString r.written ++ " bytes"
  | _, .error e =>
    head ++ " (" ++ r.label ++ ") failed after " ++ toString r.written ++ " bytes: " ++ e.message
  | _, .ok n => head ++ " failed after " ++ toString n ++ " bytes"

end Report

end Fanout
