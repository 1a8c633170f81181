import Fanout.Broker.Open

namespace Fanout.Broker

def enterDeparture (b : Broker) (i : Nat) (d : Departure) (guard : Nat) : Broker :=
  let (b, wasAttached) := b.detach d.place
  let b := (b.retireIfEmpty d.key d.place.1).leave guard
  if wasAttached then (b.updateSink d.place (·.beginClose 0 b.now)).setDeparture i .closing
  else b.setDeparture i .ended

def departureReady (b : Broker) (d : Departure) : Bool :=
  match d.state with
  | .watching => b.shutdown || d.readerDropped || b.tokenCanceled d.token
  | .queued guard => b.locks.holds guard
  | .closing => b.registry.closeEnded [d.place]
  | .ended => false

def runDeparture (b : Broker) (i : Nat) : Broker :=
  match b.departures[i]? with
  | none => b
  | some d =>
    match d.state with
    | .watching =>
      let (b, guard) := b.enter d.key
      if b.locks.holds guard then b.enterDeparture i d guard else b.setDeparture i (.queued guard)
    | .queued guard => b.enterDeparture i d guard
    | .closing => b.setDeparture i .ended
    | .ended => b

end Fanout.Broker
