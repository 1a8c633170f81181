import Fanout.Relay.Pipe

namespace Fanout

inductive Delivery where
  | looking
  | pausing
  | waiting (notified : Bool)
  | writing (size : Nat) (rest : Bytes)
  | exited
deriving DecidableEq, Inhabited

/-- Who answers for the end of the sink. -/
inductive SinkOwner where
  | held
  /-- A close waits for the delivery task until the deadline. -/
  | flushing (deadline : Nat)
  /-- A close has canceled the delivery task and waits for its exit. -/
  | aborting
  /-- Nobody: the sink was dropped, or its close has ended or was given up. -/
  | released
deriving DecidableEq, Inhabited

structure Sink where
  id : Nat
  depth : Nat
  pipe : Pipe
  queue : List Bytes := []
  closed : Bool := false
  /-- A notification that came while nobody was waiting. -/
  stored : Bool := false
  canceled : Bool := false
  failed : Bool := false
  delivered : Nat := 0
  dropped : Nat := 0
  task : Delivery := .looking
  owner : SinkOwner := .held
deriving DecidableEq, Inhabited

namespace Sink

def new (id depth : Nat) (pipe : Pipe) : Sink := { id := id, depth := max depth 1, pipe := pipe }

/-- Wakes the delivery task, or leaves one notification for its next wait. -/
def notify (s : Sink) : Sink :=
  match s.task with
  | .waiting false => { s with task := .waiting true }
  | _ => { s with stored := true }

/-- Offers a buffer without waiting. The answer is false if a buffer was lost by it. -/
def enqueue (s : Sink) (data : Bytes) : Sink × Bool :=
  if s.closed then ({ s with dropped := s.dropped + 1 }, false)
  else if s.depth ≤ s.queue.length then
    (({ s with queue := s.queue.tail ++ [data], dropped := s.dropped + 1 } : Sink).notify, false)
  else (({ s with queue := s.queue ++ [data] } : Sink).notify, true)

def enqueueAll (s : Sink) : List Bytes → Sink × List Bool
  | [] => (s, [])
  | data :: rest =>
    let (s, kept) := s.enqueue data
    let (s, others) := s.enqueueAll rest
    (s, kept :: others)

def exit (s : Sink) : Sink := { s with task := .exited, pipe := s.pipe.dropWriter }

/-- One step of the delivery task. A step that has to wait changes nothing. -/
def step (s : Sink) : Sink :=
  match s.task with
  | .looking =>
    match s.queue with
    | data :: rest =>
      if s.failed then { s with queue := rest }
      else { s with queue := rest, task := .writing data.length data }
    | [] => if s.closed then s.exit else { s with task := .pausing }
  | .pausing =>
    if s.canceled then s.exit
    else if s.stored then { s with stored := false, task := .looking }
    else { s with task := .waiting false }
  | .waiting notified =>
    if s.canceled then s.exit else if notified then { s with task := .looking } else s
  | .writing size rest =>
    if s.canceled then s.exit
    else if rest.isEmpty then { s with delivered := s.delivered + size, task := .looking }
    else if s.pipe.readerGone then { s with failed := true, task := .looking }
    else if s.pipe.room = 0 then s
    else { s with pipe := s.pipe.accept rest, task := .writing size (s.pipe.refused rest) }
  | .exited => s

def ready (s : Sink) : Bool :=
  match s.task with
  | .looking | .pausing => true
  | .waiting notified => s.canceled || notified
  | .writing _ rest => s.canceled || rest.isEmpty || s.pipe.readerGone || s.pipe.room != 0
  | .exited => false

def runFor : Nat → Sink → Sink
  | 0, s => s
  | n + 1, s => if s.ready then runFor n s.step else s

/-- Runs the delivery task until it has to wait: three steps for each queued buffer, and a few
for the buffer in hand and for going to sleep. -/
def run (s : Sink) : Sink := runFor (3 * s.queue.length + 8) s

def dropReader (s : Sink) : Sink := { s with pipe := s.pipe.dropReader }

def closeQueue (s : Sink) : Sink := ({ s with closed := true } : Sink).notify

/-- Lets go of the sink. A sink whose close has begun belongs to that close. -/
def drop (s : Sink) : Sink :=
  match s.owner with
  | .held => { s.closeQueue with canceled := true, owner := .released }
  | _ => s

/-- Begins to close the sink: the queue is flushed for up to `grace`, or not at all. -/
def beginClose (s : Sink) (grace now : Nat) : Sink :=
  match s.owner with
  | .held =>
    if grace = 0 then { s.closeQueue with canceled := true, owner := .aborting }
    else { s.closeQueue with owner := .flushing (now + grace) }
  | _ => s

def closeReady (s : Sink) (now : Nat) : Bool :=
  match s.owner with
  | .flushing deadline => s.task == .exited || deadline ≤ now
  | .aborting => s.task == .exited
  | _ => false

def advanceClose (s : Sink) (now : Nat) : Sink :=
  match s.owner with
  | .flushing deadline =>
    if s.task = .exited then { s with owner := .released }
    else if deadline ≤ now then { s with canceled := true, owner := .aborting }
    else s
  | .aborting => if s.task = .exited then { s with owner := .released } else s
  | _ => s

/-- Gives up a close that was begun. The delivery task is left as it is. -/
def abandonClose (s : Sink) : Sink :=
  match s.owner with
  | .flushing _ | .aborting => { s with owner := .released }
  | _ => s

def closeEnded (s : Sink) : Bool := s.owner == .released

def alarm (s : Sink) : Option Nat :=
  match s.owner with
  | .flushing deadline => some deadline
  | _ => none

end Sink

end Fanout
