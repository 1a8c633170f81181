import Fanout.Broker.Depart
import Fanout.Broker.Stop
import Fanout.Relay.Run

namespace Fanout

inductive BrokerTask where
  | opening (i : Nat)
  | departure (i : Nat)
  | pull (i : Nat)
  | watcher (i : Nat)
  | stop (i : Nat)
  | close (i : Nat)
  | sweeper (i : Nat)
  | delivery (place : SinkPlace)
  | closer (place : SinkPlace)
deriving DecidableEq, Inhabited

namespace Broker

def placesWhere {α : Type} (p : α → Bool) (xs : List α) : List Nat :=
  (xs.zipIdx.filter (p ·.1)).map (·.2)

def isReady (b : Broker) : BrokerTask → Bool
  | .opening i => b.openings[i]?.any b.openReady
  | .departure i => b.departures[i]?.any b.departureReady
  | .pull i => b.pulls[i]?.any b.pullReady
  | .watcher i => b.pulls[i]?.any b.watcherReady
  | .stop i => b.stops[i]?.any b.stopReady
  | .close i => b.closes[i]?.any b.closeReady
  | .sweeper i => b.sweepers[i]?.any b.sweeperReady
  | .delivery place => (b.registry.sink? place).any (·.ready)
  | .closer place => (b.registry.sink? place).any (·.closeReady b.now)

/-- The tasks that do not have to wait. -/
def ready (b : Broker) : List BrokerTask :=
  (placesWhere b.openReady b.openings).map .opening ++
  (placesWhere b.departureReady b.departures).map .departure ++
  (placesWhere b.pullReady b.pulls).map .pull ++
  (placesWhere b.watcherReady b.pulls).map .watcher ++
  (placesWhere b.stopReady b.stops).map .stop ++
  (placesWhere b.closeReady b.closes).map .close ++
  (placesWhere b.sweeperReady b.sweepers).map .sweeper ++
  (b.registry.sinksWhere (·.ready)).map .delivery ++
  (b.registry.sinksWhere (·.closeReady b.now)).map .closer

def run (b : Broker) : BrokerTask → Broker
  | .opening i => b.runOpen i
  | .departure i => b.runDeparture i
  | .pull i => b.runPull i
  | .watcher i => b.runWatcher i
  | .stop i => b.runStop i
  | .close i => b.runClose i
  | .sweeper i => b.runSweeper i
  | .delivery place => b.updateSink place Sink.run
  | .closer place => b.updateSink place (·.advanceClose b.now)

def alarms (b : Broker) : List Nat :=
  (b.openings.filterMap fun o =>
    match o.state with
    | .acquiring _ _ a => a.deadline
    | _ => none) ++
  (b.pulls.filterMap fun p =>
    match p.state with
    | .running => p.feed.alarm
    | _ => none) ++
  (b.sweepers.filterMap fun s =>
    match s.state with
    | .ticking next => some next
    | _ => none) ++
  b.registry.alarms

def taskEnded (b : Broker) : BrokerTask → Bool
  | .opening i => !b.openPending i
  | .stop i =>
    match b.stops[i]?.map Stop.state with
    | some (.ended _) | some .abandoned | none => true
    | _ => false
  | .close i =>
    match b.closes[i]? with
    | some .ended | some .abandoned | none => true
    | _ => false
  | .sweeper i =>
    match b.sweepers[i]?.map Sweeper.state with
    | some .ended | some .panicked | none => true
    | _ => false
  | _ => false

def taskPanicked (b : Broker) : BrokerTask → Bool
  | .sweeper i => b.sweepers[i]?.any (·.state == .panicked)
  | _ => false

def stopFound (b : Broker) (i : Nat) : Bool :=
  b.stops[i]?.any fun s => s.state == .ended true

def abandon (b : Broker) : BrokerTask → Broker
  | .opening i => b.abandonOpen i
  | .stop i => b.abandonStop i
  | .close i => b.abandonClose i
  | _ => b

def machine : Machine Broker BrokerTask where
  ready := ready
  run t b := b.run t
  clock := now
  setClock t b := { b with now := t }
  alarms := alarms

end Broker

end Fanout
