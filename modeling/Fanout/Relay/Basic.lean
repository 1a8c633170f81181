import Fanout.Relay.Replay
import Fanout.Relay.Sink
import Fanout.Stream.Key

namespace Fanout

structure RelayConfig where
  replayCapacity : Nat := 32 * 1024 * 1024
  queueDepth : Nat := 64
  closeGrace : Nat := 5000
deriving DecidableEq, Inhabited

/-- What became of a subscription to the next time the relay has no viewers. -/
inductive Signal where
  | pending
  | fired
  | withdrawn
deriving DecidableEq, Inhabited

structure Viewer where
  sink : Sink
  attached : Bool := true
deriving DecidableEq, Inhabited

namespace Viewer

def offer (data : Bytes) (v : Viewer) : Viewer :=
  if v.attached then { v with sink := (v.sink.enqueue data).1 } else v

def beginClose (grace now : Nat) (v : Viewer) : Viewer :=
  if v.attached then { v with attached := false, sink := v.sink.beginClose grace now } else v

end Viewer

structure Relay where
  key : StreamKey
  config : RelayConfig
  replay : Replay
  /-- Every viewer there ever was, in the order of their numbers. -/
  viewers : List Viewer := []
  closed : Bool := false
  signals : List Signal := []
  written : Nat := 0
deriving DecidableEq, Inhabited

structure RelayStats where
  key : StreamKey
  clients : Nat
  bytesWritten : Nat
  bufferedBytes : Nat
  droppedBuffers : Nat
  closed : Bool
deriving DecidableEq

namespace Relay

def new (key : StreamKey) (config : RelayConfig) : Relay :=
  { key := key, config := config, replay := { capacity := config.replayCapacity } }

def attached (r : Relay) : List Viewer := r.viewers.filter (·.attached)

def viewerCount (r : Relay) : Nat := r.attached.length

def isEmpty (r : Relay) : Bool := r.attached.isEmpty

def viewer? (r : Relay) (id : Nat) : Option Viewer := r.viewers.find? (·.sink.id == id)

def sink? (r : Relay) (id : Nat) : Option Sink := (r.viewer? id).map (·.sink)

def isAttached (r : Relay) (id : Nat) : Bool := r.attached.any (·.sink.id == id)

def updateViewer (r : Relay) (id : Nat) (f : Viewer → Viewer) : Relay :=
  { r with viewers := r.viewers.map fun v => if v.sink.id = id then f v else v }

def updateSink (r : Relay) (id : Nat) (f : Sink → Sink) : Relay :=
  r.updateViewer id fun v => { v with sink := f v.sink }

def fire (r : Relay) : Relay :=
  { r with signals := r.signals.map fun s => if s = .pending then .fired else s }

/-- Fans `data` out to the attached viewers. The whole length is reported, whatever becomes of
the single deliveries. -/
def write (r : Relay) (data : Bytes) : Relay × Nat :=
  if data.isEmpty then (r, 0)
  else
    ({ r with
        replay := r.replay.write data
        viewers := r.viewers.map (Viewer.offer data)
        written := r.written + data.length },
      data.length)

def writeAll (r : Relay) : List Bytes → Relay × List Nat
  | [] => (r, [])
  | data :: rest =>
    let (r, n) := r.write data
    let (r, others) := r.writeAll rest
    (r, n :: others)

/-- Attaches a viewer, who first gets the replay window. Answers with the viewer's number and
whether nobody was attached just before; a closed relay refuses. -/
def add (r : Relay) (pipe : Pipe) : Option (Relay × Nat × Bool) :=
  if r.closed then none
  else
    let id := r.viewers.length + 1
    let sink := Sink.new id r.config.queueDepth pipe
    let backlog := r.replay.snapshot
    let sink := if backlog.isEmpty then sink else (sink.enqueue backlog).1
    some ({ r with viewers := r.viewers ++ [{ sink := sink }] }, id, r.isEmpty)

/-- Detaches a viewer and leaves the sink to the caller. The last one to go fires the
subscriptions. -/
def detach (r : Relay) (id : Nat) : Option Relay :=
  if r.isAttached id then
    let r := r.updateViewer id fun v => { v with attached := false }
    some (if r.isEmpty then r.fire else r)
  else none

def beginRemove (r : Relay) (id now : Nat) : Option Relay :=
  (r.detach id).map (·.updateSink id (·.beginClose 0 now))

/-- Refuses further viewers and keeps those who are attached. -/
def retire (r : Relay) : Relay := { r with closed := true }

/-- Retires the relay if nobody is attached. Answers whether it is closed now. -/
def retireIfEmpty (r : Relay) : Relay × Bool :=
  if r.closed then (r, true)
  else if r.isEmpty then (({ r with closed := true } : Relay).fire, true)
  else (r, false)

/-- Refuses further viewers and begins to close every sink, each with the full grace. Answers
with the numbers of the viewers it concerns. -/
def beginClose (r : Relay) (now : Nat) : Relay × List Nat :=
  (({ r with
      closed := true
      viewers := r.viewers.map (Viewer.beginClose r.config.closeGrace now) } : Relay).fire,
    r.attached.map (·.sink.id))

def closeEnded (r : Relay) (ids : List Nat) : Bool :=
  ids.all fun id => (r.sink? id).all (·.closeEnded)

def abandonClose (r : Relay) (ids : List Nat) : Relay :=
  ids.foldl (fun r id => r.updateSink id Sink.abandonClose) r

/-- Subscribes to the next time nobody is attached, which may be now. -/
def subscribe (r : Relay) : Relay × Nat :=
  let signal : Signal := if r.isEmpty then .fired else .pending
  ({ r with signals := r.signals ++ [signal] }, r.signals.length + 1)

def signal? (r : Relay) : Nat → Option Signal
  | 0 => none
  | n + 1 => r.signals[n]?

def withdraw (r : Relay) : Nat → Relay
  | 0 => r
  | n + 1 =>
    { r with signals := r.signals.modify n fun s => if s = .pending then .withdrawn else s }

def stats (r : Relay) : RelayStats :=
  { key := r.key
    clients := r.viewerCount
    bytesWritten := r.written
    bufferedBytes := r.replay.size
    droppedBuffers := sum (r.attached.map (·.sink.dropped))
    closed := r.closed }

end Relay

end Fanout
