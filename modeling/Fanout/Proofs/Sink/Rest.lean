import Fanout.Relay.Sink
import Mathlib.Logic.Function.Iterate

namespace Fanout.Sink

variable {s : Sink} {n : Nat}

/-- More steps than the delivery task can take before it has to wait. -/
def effort (s : Sink) : Nat :=
  let look := 3 * s.queue.length + if s.stored then 5 else 3
  match s.task with
  | .looking => look
  | .pausing => if s.stored then 3 * s.queue.length + 4 else 2
  | .waiting notified => if notified then look + 1 else 1
  | .writing _ rest => if rest.isEmpty ∨ s.pipe.room = 0 then look + 1 else look + 2
  | .exited => 0

theorem step_of_idle (idle : s.ready = false) : s.step = s := by
  cases task : s.task with
  | looking => simp [ready, task] at idle
  | pausing => simp [ready, task] at idle
  | waiting notified => simp_all [ready, step]
  | writing size rest => simp_all [ready, step]
  | exited => simp [step, task]

theorem room_accept {p : Pipe} {rest : Bytes} (left : p.refused rest ≠ []) :
    (p.accept rest).room = 0 := by
  have more : p.room < rest.length := by
    by_contra small
    exact left (List.drop_eq_nil_of_le (Nat.le_of_not_lt small))
  simp only [Pipe.room, Pipe.accept, List.length_append, List.length_take] at more ⊢
  omega

theorem effort_step (ready : s.ready = true) : s.step.effort < s.effort := by
  cases task : s.task with
  | looking =>
    cases queue : s.queue with
    | nil => cases closed : s.closed <;> cases stored : s.stored <;>
        simp [effort, step, exit, task, queue, closed, stored]
    | cons data rest =>
      cases failed : s.failed <;>
        simp only [effort, step, task, queue, failed, List.length_cons, if_true, Bool.false_eq_true,
          if_false]
      · split <;> omega
      · omega
  | pausing =>
    simp only [effort, step, task]
    repeat' split
    all_goals simp_all [exit]
  | waiting notified =>
    cases notified <;> cases canceled : s.canceled <;>
      simp_all [Sink.ready, effort, step, exit]
  | writing size rest =>
    simp only [Sink.ready, task, Bool.or_eq_true] at ready
    by_cases canceled : s.canceled = true
    · simp only [effort, step, task, canceled, exit, if_true]
      split <;> omega
    · rw [Bool.not_eq_true] at canceled
      by_cases done : rest.isEmpty = true
      · simp [effort, step, task, canceled, done]
      rw [Bool.not_eq_true] at done
      by_cases gone : s.pipe.readerGone = true
      · simp only [effort, step, task, canceled, done, gone, if_true, if_false, Bool.false_eq_true,
          false_or]
        repeat' split
        all_goals omega
      · rw [Bool.not_eq_true] at gone
        have space : s.pipe.room ≠ 0 := by simpa [canceled, done, gone] using ready
        -- Either the buffer is now in the pipe to its last byte, or the pipe is full.
        have filled : s.pipe.refused rest = [] ∨ (s.pipe.accept rest).room = 0 := by
          by_cases left : s.pipe.refused rest = []
          · exact .inl left
          · exact .inr (room_accept left)
        simp [effort, step, task, canceled, done, gone, space, filled]
  | exited => simp [Sink.ready, task] at ready

/-- Steps beyond the first wait change nothing. -/
theorem runFor_eq_iterate (n : Nat) (s : Sink) : runFor n s = step^[n] s := by
  induction n generalizing s with
  | zero => rfl
  | succ n ih =>
    rw [runFor, Function.iterate_succ_apply]
    split
    · exact ih s.step
    · rename_i idle
      have still : s.step = s := step_of_idle (by simpa using idle)
      rw [still, Function.iterate_fixed still]

theorem ready_runFor (enough : s.effort ≤ n) : (runFor n s).ready = false := by
  induction n generalizing s with
  | zero =>
    by_contra ready
    have less := effort_step (s := s) (by simpa [runFor] using ready)
    omega
  | succ n ih =>
    rw [runFor]
    split
    · rename_i ready
      have less := effort_step ready
      exact ih (by omega)
    · rename_i idle
      simpa using idle

theorem ready_run (s : Sink) : s.run.ready = false := by
  refine ready_runFor ?_
  unfold effort
  dsimp only
  repeat' split
  all_goals omega

/-- Wherever the delivery task has come to rest, it is where a run of it ends. -/
theorem iterate_eq_run (idle : (step^[n] s).ready = false) : step^[n] s = s.run := by
  have still := step_of_idle idle
  have rest := step_of_idle s.ready_run
  rw [run, runFor_eq_iterate] at rest ⊢
  generalize 3 * s.queue.length + 8 = m at rest ⊢
  calc step^[n] s
      = step^[m] (step^[n] s) := (Function.iterate_fixed still m).symm
    _ = step^[n] (step^[m] s) := by
      rw [← Function.iterate_add_apply, Nat.add_comm, Function.iterate_add_apply]
    _ = step^[m] s := Function.iterate_fixed rest n

end Fanout.Sink
