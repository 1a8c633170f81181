import Fanout.Broker.Run

namespace Fanout

inductive Event where
  | request (r : Request)
  | stop (key : StreamKey)
  | close
  | sweep
  | sweeper (period : Nat)
  | abandon (call : BrokerTask)
  | token (canceled : Bool)
  | cancel (token : Nat)
  | read (opening most : Nat)
  | dropReader (opening : Nat)
  | command (name : String) (c : ScriptCommand)
  /-- The feed of a running pull does whatever it likes. -/
  | turn (pull : Nat) (turn : Turn)
  | run (task : BrokerTask)
  | tick (ms : Nat)

namespace Broker

def read (b : Broker) (i most : Nat) : Broker :=
  match b.readerPlace i with
  | some place => b.updateSink place fun s => { s with pipe := (s.pipe.take most).2 }
  | none => b

def loseReader (b : Broker) (i : Nat) : Broker :=
  match b.openings[i]?.map Opening.state with
  | some (.opened place departure) => b.dropReader place departure
  | _ => b

def turn (b : Broker) (i : Nat) (t : Turn) : Broker :=
  match b.pulls[i]? with
  | some p =>
    match p.state with
    | .running => b.takeTurn i p t
    | _ => b
  | none => b

def step (b : Broker) : Event → Broker
  | .request r => (b.requestOpen r).1
  | .stop key => (b.requestStop key).1
  | .close => b.requestClose.1
  | .sweep => b.sweep.1
  | .sweeper period => (b.requestSweeper period).1
  | .abandon call => b.abandon call
  | .token canceled => { b with tokens := b.tokens ++ [canceled] }
  | .cancel token => b.cancelToken token
  | .read i most => b.read i most
  | .dropReader i => b.loseReader i
  | .command name c => (b.command name c).1
  | .turn i t => b.turn i t
  | .run task => if b.isReady task then b.run task else b
  | .tick ms => { b with now := b.now + ms }

def after (b : Broker) (events : List Event) : Broker := events.foldl step b

@[simp] theorem after_nil (b : Broker) : b.after [] = b := rfl

@[simp] theorem after_cons (b : Broker) (e : Event) (events : List Event) :
    b.after (e :: events) = (b.step e).after events := rfl

theorem after_append (b : Broker) (first second : List Event) :
    b.after (first ++ second) = (b.after first).after second := List.foldl_append

def come (n : Nat) : List Event :=
  [.request { key := ⟨"a"⟩, feed := .plain {}, limits := [0], token := n }, .run (.opening n),
    .run (.pull n)]

def go (n : Nat) : List Event := [.dropReader n, .run (.departure n), .run (.watcher n)]

end Broker

end Fanout
