import Fanout.Proofs.Sink.Delivery

namespace Fanout

inductive SinkMove where
  | event (e : SinkEvent)
  | closeQueue
  | cancel
deriving DecidableEq

namespace Sink

variable {s : Sink}

/-- The delivery task is not about to wait in vain. -/
def Alert (s : Sink) : Prop :=
  match s.task with
  | .pausing => s.stored = true
  | .waiting notified => notified = true
  | _ => True

/-- The delivery task is alert whenever there is something to do. -/
def Wakeful (s : Sink) : Prop := s.closed = true ∨ s.queue ≠ [] → s.Alert

theorem alert_notify (s : Sink) : s.notify.Alert := by
  cases task : s.task with
  | waiting notified => cases notified <;> simp [notify, Alert, task]
  | _ => simp [notify, Alert, task]

theorem closeQueue_cases (s : Sink) :
    s.task = .waiting false ∧ s.closeQueue = { s with closed := true, task := .waiting true } ∨
      s.closeQueue = { s with closed := true, stored := true } :=
  notify_cases { s with closed := true }

theorem alert_closeQueue (s : Sink) : s.closeQueue.Alert := alert_notify { s with closed := true }

namespace Wakeful

theorem new (id depth : Nat) (pipe : Pipe) : (Sink.new id depth pipe).Wakeful := fun _ => trivial

theorem enqueue (h : s.Wakeful) (data : Bytes) : (s.enqueue data).1.Wakeful := by
  unfold Sink.enqueue
  split
  · exact h
  · split
    · exact fun _ => alert_notify _
    · exact fun _ => alert_notify _

theorem step (h : s.Wakeful) : s.step.Wakeful := by
  cases task : s.task with
  | looking =>
    simp only [Sink.step, task]
    split
    · split
      · exact fun _ => trivial
      · exact fun _ => trivial
    · rename_i empty
      split
      · exact fun _ => trivial
      · rename_i opened
        intro work
        rcases work with closed | some
        · exact absurd closed opened
        · exact absurd empty some
  | pausing =>
    simp only [Sink.step, task]
    split
    · exact fun _ => trivial
    · split
      · exact fun _ => trivial
      · rename_i nothing
        intro work
        have alert := h work
        rw [Alert, task] at alert
        exact absurd alert nothing
  | waiting notified =>
    simp only [Sink.step, task]
    split
    · exact fun _ => trivial
    · split
      · exact fun _ => trivial
      · exact h
  | writing size rest =>
    simp only [Sink.step, task]
    repeat' split
    case isFalse.isFalse.isFalse.isTrue => exact h
    all_goals exact fun _ => trivial
  | exited =>
    simp only [Sink.step, task]
    exact h

theorem act (h : s.Wakeful) (a : SinkAct) : (s.act a).Wakeful := by
  cases a with
  | deliver => exact h.step
  | read most => exact h
  | dropReader => exact h
  | drop =>
    simp only [Sink.act, Sink.drop]
    split
    · exact fun _ => s.alert_closeQueue
    · exact h
  | beginClose grace now =>
    simp only [Sink.act, Sink.beginClose]
    repeat' split
    · exact fun _ => s.alert_closeQueue
    · exact fun _ => s.alert_closeQueue
    · exact h
  | advanceClose now =>
    simp only [Sink.act, Sink.advanceClose]
    repeat' split
    all_goals exact h
  | abandonClose =>
    simp only [Sink.act, Sink.abandonClose]
    split <;> exact h

theorem handle (h : s.Wakeful) (e : SinkEvent) : (s.handle e).Wakeful := by
  cases e with
  | enqueue data => exact h.enqueue data
  | act a => exact h.act a

end Wakeful

def move (s : Sink) : SinkMove → Sink
  | .event e => s.handle e
  | .closeQueue => s.closeQueue
  | .cancel => { s with canceled := true }

def through (s : Sink) (moves : List SinkMove) : Sink := moves.foldl move s

theorem Wakeful.move (h : s.Wakeful) (m : SinkMove) : (s.move m).Wakeful := by
  cases m with
  | event e => exact h.handle e
  | closeQueue => exact fun _ => s.alert_closeQueue
  | cancel => exact h

theorem Wakeful.through (h : s.Wakeful) (moves : List SinkMove) : (s.through moves).Wakeful := by
  induction moves generalizing s with
  | nil => exact h
  | cons m rest ih => exact ih (h.move m)

/-- The delivery is canceled only by those who have closed the queue. -/
def Disciplined (s : Sink) : List SinkMove → Prop
  | [] => True
  | m :: rest => (m = .cancel → s.closed = true) ∧ (s.move m).Disciplined rest

def Blocked (s : Sink) : Prop :=
  ∃ size rest, s.task = .writing size rest ∧ rest ≠ [] ∧ s.pipe.room = 0 ∧ s.pipe.readerGone = false

def Lasting (s : Sink) : Prop := s.task = .exited → s.closed = true ∨ s.canceled = true

def Ordered (s : Sink) : Prop := s.canceled = true ∨ s.owner ≠ .held → s.closed = true

theorem closed_notify (s : Sink) : s.notify.closed = s.closed := by
  rcases s.notify_cases with ⟨-, same⟩ | same <;> rw [same]

theorem closed_enqueue (s : Sink) (data : Bytes) : (s.enqueue data).1.closed = s.closed := by
  unfold enqueue
  split
  · rfl
  · split
    · exact closed_notify _
    · exact closed_notify _

theorem closed_step (s : Sink) : s.step.closed = s.closed := by
  unfold step
  repeat' split
  all_goals rfl

theorem exited_step (exited : s.step.task = .exited) :
    s.task = .exited ∧ s.step = s ∨ s.step = s.exit ∧ (s.closed = true ∨ s.canceled = true) := by
  unfold step at exited ⊢
  repeat' split
  all_goals simp_all

namespace Lasting

theorem of_closed (closed : s.closed = true) : s.Lasting := fun _ => .inl closed

theorem notify (h : s.Lasting) : s.notify.Lasting := by
  rcases s.notify_cases with ⟨-, same⟩ | same
  · rw [same]
    exact nofun
  · rw [same]
    exact h

theorem step (h : s.Lasting) : s.step.Lasting := by
  intro exited
  rw [closed_step, s.step_owner.2]
  rcases exited_step exited with ⟨before, -⟩ | ⟨-, reason⟩
  · exact h before
  · exact reason

theorem act (h : s.Lasting) (a : SinkAct) : (s.act a).Lasting := by
  cases a with
  | deliver => exact h.step
  | read most => exact h
  | dropReader => exact h
  | drop =>
    simp only [Sink.act, Sink.drop]
    split
    · exact of_closed s.closed_closeQueue
    · exact h
  | beginClose grace now =>
    simp only [Sink.act, Sink.beginClose]
    repeat' split
    · exact of_closed s.closed_closeQueue
    · exact of_closed s.closed_closeQueue
    · exact h
  | advanceClose now =>
    simp only [Sink.act, Sink.advanceClose]
    repeat' split
    · exact h
    · exact fun _ => .inr rfl
    · exact h
    · exact h
    · exact h
    · exact h
  | abandonClose =>
    simp only [Sink.act, Sink.abandonClose]
    split <;> exact h

theorem move (h : s.Lasting) (m : SinkMove) : (s.move m).Lasting := by
  cases m with
  | event e =>
    cases e with
    | enqueue data =>
      simp only [Sink.move, Sink.handle, Sink.enqueue]
      repeat' split
      · exact h
      · exact notify h
      · exact notify h
    | act a => exact h.act a
  | closeQueue => exact of_closed s.closed_closeQueue
  | cancel => exact fun _ => .inr rfl

theorem through (h : s.Lasting) (moves : List SinkMove) : (s.through moves).Lasting := by
  induction moves generalizing s with
  | nil => exact h
  | cons m rest ih => exact ih (h.move m)

end Lasting

namespace Ordered

theorem act (h : s.Ordered) (a : SinkAct) : (s.act a).Ordered := by
  cases a with
  | deliver =>
    obtain ⟨owner, canceled⟩ := s.step_owner
    rw [Ordered, Sink.act, owner, canceled, closed_step]
    exact h
  | read most => exact h
  | dropReader => exact h
  | drop =>
    simp only [Sink.act, Sink.drop]
    split
    · exact fun _ => s.closed_closeQueue
    · exact h
  | beginClose grace now =>
    simp only [Sink.act, Sink.beginClose]
    repeat' split
    · exact fun _ => s.closed_closeQueue
    · exact fun _ => s.closed_closeQueue
    · exact h
  | advanceClose now =>
    by_cases held : s.owner = .held
    · simp only [Sink.act, Sink.advanceClose, held]
      exact h
    · have closed := h (.inr held)
      simp only [Sink.act, Sink.advanceClose]
      repeat' split
      all_goals exact fun _ => closed
  | abandonClose =>
    by_cases held : s.owner = .held
    · simp only [Sink.act, Sink.abandonClose, held]
      exact h
    · have closed := h (.inr held)
      simp only [Sink.act, Sink.abandonClose]
      split <;> exact fun _ => closed

theorem through (h : s.Ordered) {moves : List SinkMove} (disciplined : s.Disciplined moves) :
    (s.through moves).Ordered := by
  induction moves generalizing s with
  | nil => exact h
  | cons m rest ih =>
    obtain ⟨first, rest⟩ := disciplined
    refine ih ?_ rest
    cases m with
    | event e =>
      cases e with
      | enqueue data =>
        obtain ⟨owner, canceled⟩ := s.enqueue_owner data
        rw [Ordered, Sink.move, Sink.handle, owner, canceled, closed_enqueue]
        exact h
      | act a => exact h.act a
    | closeQueue => exact fun _ => s.closed_closeQueue
    | cancel => exact fun _ => first rfl

end Ordered

theorem Alert.blocked (h : s.Alert) (idle : s.ready = false) (running : s.task ≠ .exited) :
    s.canceled = false ∧ s.Blocked := by
  unfold ready at idle
  cases task : s.task with
  | looking => simp [task] at idle
  | pausing => simp [task] at idle
  | waiting notified =>
    rw [Alert, task] at h
    simp [task, show notified = true from h] at idle
  | writing size rest =>
    simp only [task, Bool.or_eq_false_iff, bne_eq_false_iff_eq, List.isEmpty_eq_false_iff] at idle
    obtain ⟨⟨⟨going, left⟩, reader⟩, full⟩ := idle
    exact ⟨going, size, rest, task, left, full, reader⟩
  | exited => exact absurd task running

/-- However the steps of the producer, of the reader and of whoever lets go of the sink fall between
those of the delivery task: while the queue holds something or is closed, the task does not wait
without a notification, nor is it about to. If it cannot go on although the sink is open and its queue
holds something, it is blocked at a full pipe. A sink is open as long as its queue is, if the delivery
is canceled by nobody but those who have closed the queue. -/
theorem no_lost_wakeup (id depth : Nat) (pipe : Pipe) (moves : List SinkMove) :
    let s := (Sink.new id depth pipe).through moves
    (s.queue ≠ [] ∨ s.closed = true →
      s.task ≠ .waiting false ∧ (s.task = .pausing → s.stored = true)) ∧
    (s.ready = false → s.closed = false → s.canceled = false → s.queue ≠ [] → s.Blocked) ∧
    ((Sink.new id depth pipe).Disciplined moves → s.canceled = true → s.closed = true) := by
  intro s
  have wakeful : s.Wakeful := (Wakeful.new id depth pipe).through moves
  have lasting : s.Lasting := Lasting.through (s := .new id depth pipe) nofun moves
  have start : (Sink.new id depth pipe).Ordered := by simp [Ordered, new]
  refine ⟨fun work => ?_, ?_, fun disciplined canceled => ?_⟩
  · have alert := wakeful work.symm
    constructor
    · intro waits
      rw [Alert, waits] at alert
      cases alert
    · intro pauses
      rw [Alert, pauses] at alert
      exact alert
  · intro idle opened going some
    refine ((wakeful (.inr some)).blocked idle fun exited => ?_).2
    rcases lasting exited with closed | canceled
    · exact absurd (closed.symm.trans opened) (by decide)
    · exact absurd (canceled.symm.trans going) (by decide)
  · exact start.through disciplined (.inl canceled)

example :
    let s := (Sink.new 1 2 { capacity := 4 }).through
      [.event (.act .deliver), .event (.enqueue [1]), .event (.enqueue [2]), .closeQueue]
    s.task = .pausing ∧ s.stored = true ∧ s.run.task = .exited ∧ s.run.pipe.held = [1, 2] := by
  decide

end Sink

end Fanout
