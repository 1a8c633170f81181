import Fanout.Relay.Sink

namespace Fanout

inductive SinkAct where
  | deliver
  | read (most : Nat)
  | dropReader
  | drop
  | beginClose (grace now : Nat)
  | advanceClose (now : Nat)
  | abandonClose
deriving DecidableEq

inductive SinkEvent where
  | enqueue (data : Bytes)
  | act (a : SinkAct)
deriving DecidableEq

namespace SinkEvent

def offered : SinkEvent → Option Bytes
  | .enqueue data => some data
  | .act _ => none

def taken (s : Sink) : SinkEvent → Bytes
  | .act (.read most) => (s.pipe.take most).1
  | _ => []

end SinkEvent

def offers (events : List SinkEvent) : List Bytes := events.filterMap SinkEvent.offered

@[simp] theorem offers_nil : offers [] = [] := rfl

theorem offers_append (first second : List SinkEvent) :
    offers (first ++ second) = offers first ++ offers second := List.filterMap_append

namespace Sink

def act (s : Sink) : SinkAct → Sink
  | .deliver => s.step
  | .read most => { s with pipe := (s.pipe.take most).2 }
  | .dropReader => s.dropReader
  | .drop => s.drop
  | .beginClose grace now => s.beginClose grace now
  | .advanceClose now => s.advanceClose now
  | .abandonClose => s.abandonClose

def handle (s : Sink) : SinkEvent → Sink
  | .enqueue data => (s.enqueue data).1
  | .act a => s.act a

def after (s : Sink) (events : List SinkEvent) : Sink := events.foldl handle s

@[simp] theorem after_nil (s : Sink) : s.after [] = s := rfl

@[simp] theorem after_cons (s : Sink) (e : SinkEvent) (events : List SinkEvent) :
    s.after (e :: events) = (s.handle e).after events := rfl

theorem after_append (s : Sink) (first second : List SinkEvent) :
    s.after (first ++ second) = (s.after first).after second := List.foldl_append

def taken (s : Sink) : List SinkEvent → Bytes
  | [] => []
  | e :: rest => e.taken s ++ (s.handle e).taken rest

/-- The bytes put into the pipe in a run that begins with an empty pipe: what the reader has taken
out, and what is still held. -/
def piped (s : Sink) (events : List SinkEvent) : Bytes :=
  s.taken events ++ (s.after events).pipe.held

theorem notify_owner (s : Sink) : s.notify.owner = s.owner ∧ s.notify.canceled = s.canceled := by
  unfold notify
  split <;> exact ⟨rfl, rfl⟩

theorem enqueue_owner (s : Sink) (data : Bytes) :
    (s.enqueue data).1.owner = s.owner ∧ (s.enqueue data).1.canceled = s.canceled := by
  unfold enqueue
  split
  · exact ⟨rfl, rfl⟩
  · split
    · exact notify_owner _
    · exact notify_owner _

theorem step_owner (s : Sink) : s.step.owner = s.owner ∧ s.step.canceled = s.canceled := by
  unfold step
  repeat' split
  all_goals exact ⟨rfl, rfl⟩

theorem runFor_events (n : Nat) (s : Sink) :
    ∃ events, runFor n s = s.after events ∧ (runFor n s).owner = s.owner := by
  induction n generalizing s with
  | zero => exact ⟨[], rfl, rfl⟩
  | succ n ih =>
    unfold runFor
    split
    · obtain ⟨events, same, owner⟩ := ih s.step
      exact ⟨.act .deliver :: events, same, owner.trans s.step_owner.1⟩
    · exact ⟨[], rfl, rfl⟩

theorem drop_of_begun {s : Sink} (begun : s.owner ≠ .held) : s.drop = s := by
  cases owner : s.owner <;> simp [drop, owner] at begun ⊢

theorem beginClose_of_begun {s : Sink} (begun : s.owner ≠ .held) (grace now : Nat) :
    s.beginClose grace now = s := by
  cases owner : s.owner <;> simp [beginClose, owner] at begun ⊢

end Sink

end Fanout
