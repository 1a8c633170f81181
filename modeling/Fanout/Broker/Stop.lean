import Fanout.Broker.Pull

namespace Fanout.Broker

def enterStop (b : Broker) (i : Nat) (key : StreamKey) (guard : Nat) : Broker :=
  let (registry, relay) := b.registry.remove key
  let b := { b with registry := registry }.leave guard
  match relay with
  | none => b.setStop i (.ended false)
  | some relay =>
    let (registry, sinks) := b.registry.beginClose relay b.now
    let b := { b with registry := registry }
    if registry.closeEnded sinks then b.setStop i (.ended true) else b.setStop i (.closing sinks)

def stopReady (b : Broker) (s : Stop) : Bool :=
  match s.state with
  | .starting => true
  | .queued guard => b.locks.holds guard
  | .closing sinks => b.registry.closeEnded sinks
  | _ => false

def runStop (b : Broker) (i : Nat) : Broker :=
  match b.stops[i]? with
  | none => b
  | some s =>
    match s.state with
    | .starting =>
      let (b, guard) := b.enter s.key
      if b.locks.holds guard then b.enterStop i s.key guard else b.setStop i (.queued guard)
    | .queued guard => b.enterStop i s.key guard
    | .closing _ => b.setStop i (.ended true)
    | _ => b

def requestStop (b : Broker) (key : StreamKey) : Broker × Nat :=
  ({ b with stops := b.stops ++ [{ key := key }] }, b.stops.length)

def abandonStop (b : Broker) (i : Nat) : Broker :=
  match b.stops[i]? with
  | none => b
  | some s =>
    match s.state with
    | .queued guard => (b.leave guard).setStop i .abandoned
    | .closing sinks =>
      { b with registry := b.registry.abandonClose sinks }.setStop i .abandoned
    | .ended _ => b
    | _ => b.setStop i .abandoned

def isDrained (b : Broker) : Bool :=
  b.pulls.all pullEnded && b.departures.all (·.state == .ended)

def drain (b : Broker) (i : Nat) : Broker :=
  if b.isDrained then b.setClose i .ended else b.setClose i .draining

def closeReady (b : Broker) : CloseState → Bool
  | .starting => true
  | .closing sinks => b.registry.closeEnded sinks
  | .draining => b.isDrained
  | _ => false

/-- The first call shuts the broker down; any other returns at once. -/
def runClose (b : Broker) (i : Nat) : Broker :=
  match b.closes[i]? with
  | some .starting =>
    if b.shutdown then b.setClose i .ended
    else
      let (registry, sinks) := b.registry.stopAll b.now
      let b := { b with shutdown := true, registry := registry }
      if registry.closeEnded sinks then b.drain i else b.setClose i (.closing sinks)
  | some (.closing _) => b.drain i
  | some .draining => b.setClose i .ended
  | _ => b

def requestClose (b : Broker) : Broker × Nat :=
  ({ b with closes := b.closes ++ [.starting] }, b.closes.length)

def abandonClose (b : Broker) (i : Nat) : Broker :=
  match b.closes[i]? with
  | some (.closing sinks) =>
    { b with registry := b.registry.abandonClose sinks }.setClose i .abandoned
  | some .ended | none => b
  | _ => b.setClose i .abandoned

/-- Retires the relays that have no viewers. Answers how many there were. -/
def sweep (b : Broker) : Broker × Nat :=
  let (registry, n) := b.registry.evictEmpty
  ({ b with registry := registry }, n)

def requestSweeper (b : Broker) (period : Nat) : Broker × Nat :=
  ({ b with sweepers := b.sweepers ++ [{ period := period }] }, b.sweepers.length)

def sweeperReady (b : Broker) (s : Sweeper) : Bool :=
  match s.state with
  | .starting => true
  | .ticking next => b.shutdown || next ≤ b.now
  | _ => false

def runSweeper (b : Broker) (i : Nat) : Broker :=
  match b.sweepers[i]? with
  | none => b
  | some s =>
    match s.state with
    | .starting =>
      if s.period = 0 then b.setSweeper i .panicked
      else if b.shutdown then b.setSweeper i .ended
      else b.setSweeper i (.ticking (b.now + s.period))
    | .ticking next =>
      if b.shutdown then b.setSweeper i .ended
      else b.sweep.1.setSweeper i (.ticking (next + s.period))
    | _ => b

end Fanout.Broker
