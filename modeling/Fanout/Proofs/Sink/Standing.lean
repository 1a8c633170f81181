import Fanout.Proofs.Sink.Wakeup

namespace Fanout.Sink

variable {s : Sink}

structure Standing (s : Sink) : Prop where
  shut : s.closed = true ↔ s.owner ≠ .held
  cut : s.canceled = true → s.closed = true
  aborting : s.owner = .aborting → s.canceled = true
  flushing : ∀ deadline, s.owner = .flushing deadline → s.canceled = false
  ended : s.task = .exited → s.closed = true ∧ s.pipe.writerGone = true
  well : ∀ size rest, s.task = .writing size rest → s.failed = false
  alert : s.closed = true ∨ s.queue ≠ [] → s.Alert

namespace Standing

theorem new (id depth : Nat) (pipe : Pipe) : (Sink.new id depth pipe).Standing where
  shut := by simp [Sink.new]
  cut := nofun
  aborting := nofun
  flushing := nofun
  ended := nofun
  well := nofun
  alert := fun some => by simp [Sink.new] at some

theorem opened (h : s.Standing) (held : s.owner = .held) :
    s.closed = false ∧ s.canceled = false ∧ s.task ≠ .exited := by
  have opened : ¬ s.closed = true := fun closed => h.shut.mp closed held
  refine ⟨by simpa using opened, ?_, fun exited => opened (h.ended exited).1⟩
  cases canceled : s.canceled with
  | false => rfl
  | true => exact absurd (h.cut canceled) opened

theorem notify (h : s.Standing) (queue : List Bytes) (dropped : Nat) :
    ({ s with queue := queue, dropped := dropped } : Sink).notify.Standing := by
  have alert := alert_notify { s with queue := queue, dropped := dropped }
  rcases notify_cases { s with queue := queue, dropped := dropped } with ⟨-, same⟩ | same
  · rw [same] at alert ⊢
    exact ⟨h.shut, h.cut, h.aborting, h.flushing, nofun, nofun, fun _ => alert⟩
  · rw [same] at alert ⊢
    exact ⟨h.shut, h.cut, h.aborting, h.flushing, h.ended, h.well, fun _ => alert⟩

theorem enqueue (h : s.Standing) (data : Bytes) : (s.enqueue data).1.Standing := by
  unfold Sink.enqueue
  split
  · exact ⟨h.shut, h.cut, h.aborting, h.flushing, h.ended, h.well, h.alert⟩
  · split
    · exact h.notify _ _
    · exact h.notify _ s.dropped

theorem step (h : s.Standing) : s.step.Standing := by
  obtain ⟨owner, canceled⟩ := s.step_owner
  constructor
  case shut => rw [closed_step, owner]; exact h.shut
  case cut => rw [closed_step, canceled]; exact h.cut
  case aborting => rw [owner, canceled]; exact h.aborting
  case flushing => rw [owner, canceled]; exact h.flushing
  case alert => exact Wakeful.step h.alert
  case ended =>
    intro exited
    rw [closed_step]
    rcases exited_step exited with ⟨before, same⟩ | ⟨left, closed | canceled⟩
    · rw [same]
      exact h.ended before
    · rw [left]
      exact ⟨closed, rfl⟩
    · rw [left]
      exact ⟨h.cut canceled, rfl⟩
  case well =>
    intro size rest writes
    have well := h.well
    unfold Sink.step at writes ⊢
    repeat' split
    all_goals simp_all [Sink.exit]

theorem closeQueue (h : s.Standing) {owner : SinkOwner} {canceled : Bool} (begun : owner ≠ .held)
    (aborting : owner = .aborting → canceled = true)
    (flushing : ∀ deadline, owner = .flushing deadline → canceled = false) :
    Standing { s.closeQueue with canceled := canceled, owner := owner } := by
  have alert := s.alert_closeQueue
  rcases s.closeQueue_cases with ⟨-, same⟩ | same
  · rw [same] at alert ⊢
    exact ⟨⟨fun _ => begun, fun _ => rfl⟩, fun _ => rfl, aborting, flushing, nofun, nofun, fun _ => alert⟩
  · rw [same] at alert ⊢
    exact ⟨⟨fun _ => begun, fun _ => rfl⟩, fun _ => rfl, aborting, flushing,
      fun exited => ⟨rfl, (h.ended exited).2⟩, h.well, fun _ => alert⟩

theorem letGo (h : s.Standing) {owner : SinkOwner} {canceled : Bool} (before : s.owner ≠ .held)
    (begun : owner ≠ .held) (aborting : owner = .aborting → canceled = true)
    (flushing : ∀ deadline, owner = .flushing deadline → canceled = false) :
    Standing { s with canceled := canceled, owner := owner } :=
  have closed := h.shut.mpr before
  ⟨⟨fun _ => begun, fun _ => closed⟩, fun _ => closed, aborting, flushing, h.ended, h.well, h.alert⟩

theorem release (h : s.Standing) (before : s.owner ≠ .held) :
    Standing { s with owner := .released } :=
  h.letGo before (by simp) (by simp) (by simp)

theorem act (h : s.Standing) (a : SinkAct) : (s.act a).Standing := by
  cases a with
  | deliver => exact h.step
  | read most => exact ⟨h.shut, h.cut, h.aborting, h.flushing, h.ended, h.well, h.alert⟩
  | dropReader => exact ⟨h.shut, h.cut, h.aborting, h.flushing, h.ended, h.well, h.alert⟩
  | drop =>
    simp only [Sink.act, Sink.drop]
    split
    · exact h.closeQueue (by simp) (by simp) (by simp)
    · exact h
  | beginClose grace now =>
    simp only [Sink.act, Sink.beginClose]
    split
    · rename_i held
      split
      · exact h.closeQueue (by simp) (fun _ => rfl) (by simp)
      · have kept : s.closeQueue.canceled = s.canceled := (notify_owner { s with closed := true }).2
        exact h.closeQueue (by simp) (by simp) fun _ _ => kept.trans (h.opened held).2.1
    · exact h
  | advanceClose now =>
    simp only [Sink.act, Sink.advanceClose]
    split
    · rename_i flushing
      have before : s.owner ≠ .held := by simp [flushing]
      split
      · exact h.release before
      · split
        · exact h.letGo before (by simp) (fun _ => rfl) (by simp)
        · exact h
    · rename_i aborting
      split
      · exact h.release (by simp [aborting])
      · exact h
    · exact h
  | abandonClose =>
    simp only [Sink.act, Sink.abandonClose]
    split
    · rename_i flushing
      exact h.release (by simp [flushing])
    · rename_i aborting
      exact h.release (by simp [aborting])
    · exact h

theorem handle (h : s.Standing) (e : SinkEvent) : (s.handle e).Standing := by
  cases e with
  | enqueue data => exact h.enqueue data
  | act a => exact h.act a

theorem after (h : s.Standing) (events : List SinkEvent) : (s.after events).Standing := by
  induction events generalizing s with
  | nil => exact h
  | cons e rest ih => exact ih (h.handle e)

/-- A delivery that rests before its end is blocked at a full pipe, or has nothing to do. -/
theorem blocked (h : s.Standing) (idle : s.ready = false) (running : s.task ≠ .exited)
    (work : s.closed = true ∨ s.queue ≠ []) :
    s.canceled = false ∧ s.pipe.room = 0 ∧ s.pipe.readerGone = false ∧
      ∃ size rest, s.task = .writing size rest ∧ rest ≠ [] := by
  obtain ⟨going, size, rest, task, left, full, reader⟩ := (h.alert work).blocked idle running
  exact ⟨going, full, reader, size, rest, task, left⟩

end Standing

end Fanout.Sink
