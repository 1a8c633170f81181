import Fanout.Proofs.Sink.Rest
import Fanout.Proofs.Sink.Standing

namespace Fanout.Sink

variable {s s' s'' : Sink}

/-- What the delivery task still has to write: the rest of the buffer in hand and then the queue. A
destination that has failed gets nothing more. -/
def owed (s : Sink) : Bytes :=
  if s.failed then []
  else
    match s.task with
    | .writing _ rest => rest ++ s.queue.flatten
    | .exited => []
    | _ => s.queue.flatten

def conduct (s : Sink) (acts : List SinkAct) : Sink := s.after (acts.map .act)

/-- All that the reader can have at the end of a run: what was taken out, and what is still held. -/
def readable (s : Sink) (acts : List SinkAct) : Bytes := s.piped (acts.map .act)

theorem conduct_cons (s : Sink) (a : SinkAct) (rest : List SinkAct) :
    s.conduct (a :: rest) = (s.act a).conduct rest := rfl

theorem conduct_append (s : Sink) (first second : List SinkAct) :
    s.conduct (first ++ second) = (s.conduct first).conduct second := by
  rw [conduct, List.map_append, after_append]
  rfl

theorem taken_append (s : Sink) (first second : List SinkEvent) :
    s.taken (first ++ second) = s.taken first ++ (s.after first).taken second := by
  induction first generalizing s with
  | nil => rfl
  | cons e rest ih => rw [List.cons_append, taken, ih, taken, List.append_assoc, after_cons]

theorem run_eq_conduct (s : Sink) : ∃ n, s.run = s.conduct (List.replicate n .deliver) := by
  refine ⟨3 * s.queue.length + 8, ?_⟩
  rw [run, runFor_eq_iterate]
  generalize 3 * s.queue.length + 8 = n
  induction n generalizing s with
  | zero => rfl
  | succ n ih =>
    rw [Function.iterate_succ_apply, ih]
    rfl

theorem Standing.conduct (h : s.Standing) (acts : List SinkAct) : (s.conduct acts).Standing :=
  h.after _

theorem owed_closeQueue (s : Sink) : s.closeQueue.owed = s.owed := by
  rcases s.closeQueue_cases with ⟨waits, same⟩ | same
  · simp [same, owed, waits]
  · rw [same]
    rfl

/-- The reader takes out `taken` and the delivery task puts `put` into the pipe. -/
structure Flow (s s' : Sink) (taken put : Bytes) : Prop where
  bytes : taken ++ s'.pipe.held = s.pipe.held ++ put
  owed : put ++ s'.owed <+: s.owed
  whole : s'.failed = false → s'.canceled = false → put ++ s'.owed = s.owed
  cut : s.canceled = true → put = []
  failed : s.failed = true → s'.failed = true
  canceled : s.canceled = true → s'.canceled = true
  dropped : s'.dropped = s.dropped

namespace Flow

variable {taken taken' put put' : Bytes}

theorem trans (first : s.Flow s' taken put) (second : s'.Flow s'' taken' put') :
    s.Flow s'' (taken ++ taken') (put ++ put') where
  bytes := by
    rw [List.append_assoc, second.bytes, ← List.append_assoc, first.bytes, List.append_assoc]
  owed := by
    rw [List.append_assoc]
    exact ((List.prefix_append_right_inj put).mpr second.owed).trans first.owed
  whole well going := by
    have well' : s'.failed = false := by
      by_contra failed
      rw [second.failed (by simpa using failed)] at well
      cases well
    have going' : s'.canceled = false := by
      by_contra canceled
      rw [second.canceled (by simpa using canceled)] at going
      cases going
    rw [List.append_assoc, second.whole well going, first.whole well' going']
  cut canceled := by rw [first.cut canceled, second.cut (first.canceled canceled), List.append_nil]
  failed failed := second.failed (first.failed failed)
  canceled canceled := second.canceled (first.canceled canceled)
  dropped := second.dropped.trans first.dropped

theorem quiet (bytes : taken ++ s'.pipe.held = s.pipe.held) (owed : s'.owed = s.owed)
    (failed : s'.failed = s.failed) (canceled : s.canceled = true → s'.canceled = true)
    (dropped : s'.dropped = s.dropped) : s.Flow s' taken [] where
  bytes := by rw [bytes, List.append_nil]
  owed := by rw [owed, List.nil_append]
  whole _ _ := owed
  cut _ := rfl
  failed before := failed.trans before
  canceled := canceled
  dropped := dropped

theorem refl (s : Sink) : s.Flow s [] [] := quiet rfl rfl rfl (fun h => h) rfl

theorem lose (bytes : s'.pipe.held = s.pipe.held) (nothing : s'.owed = [])
    (lost : s'.failed = true ∨ s'.canceled = true) (failed : s.failed = true → s'.failed = true)
    (canceled : s.canceled = true → s'.canceled = true) (dropped : s'.dropped = s.dropped) :
    s.Flow s' [] [] where
  bytes := by rw [bytes, List.nil_append, List.append_nil]
  owed := by
    rw [nothing]
    exact List.nil_prefix
  whole well going := by
    rcases lost with failed | canceled
    · exact absurd (failed.symm.trans well) (by decide)
    · exact absurd (canceled.symm.trans going) (by decide)
  cut _ := rfl
  failed := failed
  canceled := canceled
  dropped := dropped

theorem exit (canceled : s.canceled = true) : s.Flow s.exit [] [] :=
  lose rfl (ite_self []) (.inr canceled) (fun h => h) (fun h => h) rfl

theorem step (h : s.Standing) : ∃ put, s.Flow s.step [] put := by
  cases task : s.task with
  | looking =>
    simp only [Sink.step, task]
    split
    · rename_i data rest queue
      split
      · rename_i failed
        exact ⟨[], quiet rfl (by simp [Sink.owed, failed]) rfl (fun h => h) rfl⟩
      · rename_i well
        exact ⟨[], quiet rfl (by simp [Sink.owed, well, task, queue]) rfl (fun h => h) rfl⟩
    · rename_i empty
      split
      · exact ⟨[], quiet rfl (by simp [Sink.owed, Sink.exit, task, empty]) rfl (fun h => h) rfl⟩
      · exact ⟨[], quiet rfl (by simp [Sink.owed, task]) rfl (fun h => h) rfl⟩
  | pausing =>
    simp only [Sink.step, task]
    split
    · rename_i canceled
      exact ⟨[], exit canceled⟩
    · split
      · exact ⟨[], quiet rfl (by simp [Sink.owed, task]) rfl (fun h => h) rfl⟩
      · exact ⟨[], quiet rfl (by simp [Sink.owed, task]) rfl (fun h => h) rfl⟩
  | waiting notified =>
    simp only [Sink.step, task]
    split
    · rename_i canceled
      exact ⟨[], exit canceled⟩
    · split
      · exact ⟨[], quiet rfl (by simp [Sink.owed, task]) rfl (fun h => h) rfl⟩
      · exact ⟨[], refl s⟩
  | writing size rest =>
    have well := h.well size rest task
    simp only [Sink.step, task]
    split
    · rename_i canceled
      exact ⟨[], exit canceled⟩
    · rename_i going
      split
      · rename_i done
        have nil : rest = [] := List.isEmpty_iff.mp done
        exact ⟨[], quiet rfl (by simp [Sink.owed, task, nil]) rfl (fun h => h) rfl⟩
      · split
        · exact ⟨[], lose rfl (by simp [Sink.owed]) (.inl rfl) (fun _ => rfl) (fun h => h) rfl⟩
        · split
          · exact ⟨[], refl s⟩
          · have whole : rest.take s.pipe.room ++ (s.pipe.refused rest ++ s.queue.flatten) =
                rest ++ s.queue.flatten := by
              rw [← List.append_assoc, Pipe.refused, List.take_append_drop]
            refine ⟨rest.take s.pipe.room, rfl, ?_, ?_, ?_, fun h => h, fun h => h, rfl⟩
            · simp [Sink.owed, well, task, whole]
            · intro _ _
              simp [Sink.owed, well, task, whole]
            · exact fun canceled => absurd canceled going
  | exited =>
    simp only [Sink.step, task]
    exact ⟨[], refl s⟩

theorem closeQueue (s : Sink) (owner : SinkOwner) {canceled : Bool}
    (kept : s.canceled = true → canceled = true) :
    s.Flow { s.closeQueue with canceled := canceled, owner := owner } [] [] := by
  refine quiet ?_ s.owed_closeQueue ?_ kept ?_
  all_goals rcases s.closeQueue_cases with ⟨-, same⟩ | same <;> rw [same] <;> rfl

theorem beginClose (s : Sink) (grace now : Nat) : s.Flow (s.beginClose grace now) [] [] := by
  unfold Sink.beginClose
  split
  · split
    · exact closeQueue s .aborting fun _ => rfl
    · refine closeQueue s (.flushing (now + grace)) ?_
      rcases s.closeQueue_cases with ⟨-, same⟩ | same <;> simp [same]
  · exact refl s

theorem act (h : s.Standing) (a : SinkAct) :
    ∃ put, s.Flow (s.act a) ((SinkEvent.act a).taken s) put := by
  cases a with
  | deliver => exact step h
  | read most => exact ⟨[], quiet (s.pipe.take_append most) rfl rfl (fun h => h) rfl⟩
  | dropReader => exact ⟨[], quiet rfl rfl rfl (fun h => h) rfl⟩
  | drop =>
    simp only [Sink.act, Sink.drop]
    split
    · exact ⟨[], closeQueue s .released fun _ => rfl⟩
    · exact ⟨[], refl s⟩
  | beginClose grace now => exact ⟨[], beginClose s grace now⟩
  | advanceClose now =>
    simp only [Sink.act, Sink.advanceClose]
    repeat' split
    all_goals exact ⟨[], quiet rfl rfl rfl (by simp) rfl⟩
  | abandonClose =>
    simp only [Sink.act, Sink.abandonClose]
    split <;> exact ⟨[], quiet rfl rfl rfl (fun h => h) rfl⟩

theorem run (h : s.Standing) (acts : List SinkAct) :
    ∃ put, s.Flow (s.conduct acts) (s.taken (acts.map .act)) put := by
  induction acts generalizing s with
  | nil => exact ⟨[], refl s⟩
  | cons a rest ih =>
    obtain ⟨put, first⟩ := act h a
    obtain ⟨put', second⟩ := ih (h.act a)
    exact ⟨put ++ put', first.trans second⟩

end Flow

theorem readable_append (s : Sink) (first second : List SinkAct) {put : Bytes}
    (later : ((s.conduct first).taken (second.map .act)) ++
      ((s.conduct first).conduct second).pipe.held = (s.conduct first).pipe.held ++ put) :
    s.readable (first ++ second) = s.readable first ++ put := by
  simp only [readable, piped, List.map_append, taken_append, after_append, List.append_assoc]
  exact congrArg _ later

theorem readable_of_owed_nil (h : s.Standing) (first second : List SinkAct)
    (nothing : (s.conduct first).owed = []) : s.readable (first ++ second) = s.readable first := by
  obtain ⟨put, flow⟩ := Flow.run (h.conduct first) second
  have none : put = [] := by
    have owed := flow.owed
    rw [nothing, List.prefix_nil, List.append_eq_nil_iff] at owed
    exact owed.1
  rw [readable_append s first second flow.bytes, none, List.append_nil]

/-- A close with the deadline `limit` that nobody has given up. -/
structure Returning (s : Sink) (limit : Nat) : Prop where
  begun : s.owner ≠ .held
  deadline : ∀ d, s.owner = .flushing d → d = limit
  returned : s.owner = .released → s.task = .exited

theorem Returning.act {limit : Nat} (h : s.Returning limit) {a : SinkAct} (kept : a ≠ .abandonClose) :
    (s.act a).Returning limit := by
  cases a with
  | deliver =>
    obtain ⟨owner, -⟩ := s.step_owner
    refine ⟨owner ▸ h.begun, owner ▸ h.deadline, fun released => ?_⟩
    have exited := h.returned (owner ▸ released)
    simp [Sink.act, step, exited]
  | read most => exact ⟨h.begun, h.deadline, h.returned⟩
  | dropReader => exact ⟨h.begun, h.deadline, h.returned⟩
  | drop =>
    rw [Sink.act, drop_of_begun h.begun]
    exact h
  | beginClose grace now =>
    rw [Sink.act, beginClose_of_begun h.begun]
    exact h
  | advanceClose now =>
    simp only [Sink.act, advanceClose]
    split
    · split
      · rename_i exited
        exact ⟨by simp, by simp, fun _ => exited⟩
      · split
        · exact ⟨by simp, by simp, by simp⟩
        · exact h
    · split
      · rename_i exited
        exact ⟨by simp, by simp, fun _ => exited⟩
      · exact h
    · exact h
  | abandonClose => exact absurd rfl kept

theorem Returning.conduct {limit : Nat} (h : s.Returning limit) {acts : List SinkAct}
    (kept : .abandonClose ∉ acts) : (s.conduct acts).Returning limit := by
  induction acts generalizing s with
  | nil => exact h
  | cons a rest ih =>
    rw [List.mem_cons, not_or] at kept
    exact ih (h.act (Ne.symm kept.1)) kept.2

def Uncut (s : Sink) (limit : Nat) : Prop :=
  s.canceled = false ∧ (s.owner = .flushing limit ∨ s.owner = .released)

theorem Uncut.act {limit : Nat} (h : s.Uncut limit) {a : SinkAct}
    (early : ∀ t, a = .advanceClose t → t < limit) : (s.act a).Uncut limit := by
  obtain ⟨going, owner⟩ := h
  have begun : s.owner ≠ .held := by rcases owner with owner | owner <;> simp [owner]
  cases a with
  | deliver =>
    obtain ⟨same, same'⟩ := s.step_owner
    exact ⟨same'.trans going, by rwa [Sink.act, same]⟩
  | read most => exact ⟨going, owner⟩
  | dropReader => exact ⟨going, owner⟩
  | drop =>
    rw [Sink.act, drop_of_begun begun]
    exact ⟨going, owner⟩
  | beginClose grace now =>
    rw [Sink.act, beginClose_of_begun begun]
    exact ⟨going, owner⟩
  | advanceClose now =>
    have before : ¬ limit ≤ now := Nat.not_le_of_lt (early now rfl)
    rcases owner with owner | owner
    · simp only [Sink.act, advanceClose, owner, before, if_false]
      split
      · exact ⟨going, .inr rfl⟩
      · exact ⟨going, .inl owner⟩
    · simp [Sink.act, advanceClose, owner, Uncut, going]
  | abandonClose => rcases owner with owner | owner <;> simp [Sink.act, abandonClose, owner, Uncut, going]

theorem Uncut.conduct {limit : Nat} (h : s.Uncut limit) {acts : List SinkAct}
    (early : ∀ t, .advanceClose t ∈ acts → t < limit) : (s.conduct acts).Uncut limit := by
  induction acts generalizing s with
  | nil => exact h
  | cons a rest ih =>
    refine ih (h.act fun t same => early t ?_) fun t later => early t (List.mem_cons_of_mem a later)
    exact same ▸ List.mem_cons_self

theorem Returning.returns {limit now : Nat} (h : s.Returning limit) (standing : s.Standing)
    (idle : s.ready = false) (still : s.closeReady now = false)
    (due : limit ≤ now ∨ s.owed = []) : s.closeEnded = true := by
  have closed := standing.shut.mpr h.begun
  cases owner : s.owner with
  | held => exact absurd owner h.begun
  | released => simp [closeEnded, owner]
  | flushing d =>
    obtain rfl := h.deadline d owner
    simp only [closeReady, owner, Bool.or_eq_false_iff, beq_eq_false_iff_ne, decide_eq_false_iff_not]
      at still
    obtain ⟨running, early⟩ := still
    obtain ⟨-, -, -, size, rest, writes, some⟩ := standing.blocked idle running (.inl closed)
    have well := standing.well size rest writes
    rcases due with late | nothing
    · exact absurd late early
    · simp [owed, well, writes, some] at nothing
  | aborting =>
    have running : s.task ≠ .exited := by
      simpa [closeReady, owner] using still
    obtain ⟨going, -⟩ := standing.blocked idle running (.inl closed)
    exact absurd ((standing.aborting owner).symm.trans going) (by decide)

theorem ready_advanceClose (s : Sink) (now : Nat) (going : ∀ d, s.owner = .flushing d → now < d) :
    (s.advanceClose now).ready = s.ready ∧ (s.advanceClose now).closeReady now = false := by
  cases owner : s.owner with
  | held => simp [advanceClose, closeReady, owner]
  | released => simp [advanceClose, closeReady, owner]
  | flushing d =>
    have early : ¬ d ≤ now := Nat.not_le_of_lt (going d owner)
    by_cases exited : s.task = .exited
    · simp [advanceClose, closeReady, owner, exited, ready]
    · simp [advanceClose, closeReady, owner, exited, early]
  | aborting =>
    by_cases exited : s.task = .exited
    · simp [advanceClose, closeReady, owner, exited, ready]
    · simp [advanceClose, closeReady, owner, exited]

theorem rests (s : Sink) (now : Nat) :
    (((s.advanceClose now).run).advanceClose now).ready = false ∧
      (((s.advanceClose now).run).advanceClose now).closeReady now = false := by
  obtain ⟨-, -, owner⟩ := runFor_events (3 * (s.advanceClose now).queue.length + 8)
    (s.advanceClose now)
  -- the first turn has cut a delivery whose grace has passed, so that the second only lets go
  have going : ∀ d, (s.advanceClose now).run.owner = .flushing d → now < d := by
    intro d flushing
    rw [run, owner] at flushing
    unfold advanceClose at flushing
    repeat' split at flushing
    all_goals simp_all
  obtain ⟨same, still⟩ := ready_advanceClose (s.advanceClose now).run now going
  exact ⟨same.trans (ready_run _), still⟩

/-- What comes of a close that begins at the moment `now`, in every run that follows. -/
structure Closes (s : Sink) (grace now : Nat) : Prop where
  /-- Beyond what was in the pipe the reader gets a beginning of what was owed, or nothing if there is
  no grace, and no loss is counted. -/
  cut : ∀ acts, ∃ more, more <+: s.owed ∧ (grace = 0 → more = []) ∧
    (s.beginClose grace now).readable acts = s.pipe.held ++ more ∧
    ((s.beginClose grace now).conduct acts).dropped = s.dropped
  /-- If everything is written before the grace has passed, the reader gets all that was owed. -/
  flushed : ∀ before later, 0 < grace → (∀ t, .advanceClose t ∈ before → t < now + grace) →
    ((s.beginClose grace now).conduct before).failed = false →
    ((s.beginClose grace now).conduct before).owed = [] →
    (s.beginClose grace now).readable (before ++ later) = s.pipe.held ++ s.owed
  /-- When nothing can go on, and everything is written or the grace has passed, it has returned. -/
  returns : ∀ acts t, .abandonClose ∉ acts →
    ((s.beginClose grace now).conduct acts).ready = false →
    ((s.beginClose grace now).conduct acts).closeReady t = false →
    (now + grace ≤ t ∨ ((s.beginClose grace now).conduct acts).owed = []) →
    ((s.beginClose grace now).conduct acts).closeEnded = true
  /-- Once the grace has passed, a turn of the close, one of the delivery and one of the close do. -/
  within : ∀ acts t, .abandonClose ∉ acts → now + grace ≤ t →
    (((((s.beginClose grace now).conduct acts).advanceClose t).run).advanceClose t).closeEnded = true
  /-- Once it has returned the delivery has ended, the end of the stream follows what is held, and
  nothing is put into the pipe any more. -/
  ended : ∀ acts, .abandonClose ∉ acts → ((s.beginClose grace now).conduct acts).closeEnded = true →
    ((s.beginClose grace now).conduct acts).task = .exited ∧
      ((s.beginClose grace now).conduct acts).pipe.writerGone = true ∧
      ∀ later, (s.beginClose grace now).readable (acts ++ later) =
        (s.beginClose grace now).readable acts

theorem readable_eq (s : Sink) (acts : List SinkAct) :
    s.readable acts = s.taken (acts.map .act) ++ (s.conduct acts).pipe.held := rfl

theorem beginClose_owner (held : s.owner = .held) (grace now : Nat) :
    (s.beginClose grace now).owner = (if grace = 0 then .aborting else .flushing (now + grace)) ∧
      (s.beginClose grace now).canceled = (if grace = 0 then true else s.canceled) := by
  have kept : s.closeQueue.canceled = s.canceled := (notify_owner { s with closed := true }).2
  unfold beginClose
  rw [held]
  dsimp only
  split
  · exact ⟨rfl, rfl⟩
  · exact ⟨rfl, kept⟩

theorem Returning.beginClose (held : s.owner = .held) (grace now : Nat) :
    (s.beginClose grace now).Returning (now + grace) := by
  obtain ⟨owner, -⟩ := beginClose_owner held grace now
  constructor
  all_goals rw [owner]; split <;> simp

theorem Standing.closes (h : s.Standing) (held : s.owner = .held) (grace now : Nat) :
    s.Closes grace now := by
  have begun := Flow.beginClose s grace now
  have standing : (s.beginClose grace now).Standing := h.act (.beginClose grace now)
  have returning := Returning.beginClose held grace now
  obtain ⟨owner, canceled⟩ := beginClose_owner held grace now
  have returns : ∀ acts t, .abandonClose ∉ acts →
      ((s.beginClose grace now).conduct acts).ready = false →
      ((s.beginClose grace now).conduct acts).closeReady t = false →
      (now + grace ≤ t ∨ ((s.beginClose grace now).conduct acts).owed = []) →
      ((s.beginClose grace now).conduct acts).closeEnded = true := by
    intro acts t kept idle still due
    exact (returning.conduct kept).returns (standing.conduct acts) idle still due
  constructor
  case returns => exact returns
  case cut =>
    intro acts
    obtain ⟨put, flow⟩ := Flow.run standing acts
    have whole := begun.trans flow
    refine ⟨put, (List.prefix_append put _).trans whole.owed, fun none => ?_, ?_, whole.dropped⟩
    · rw [if_pos none] at canceled
      exact flow.cut canceled
    · exact whole.bytes
  case flushed =>
    intro before later some early well nothing
    have some : grace ≠ 0 := Nat.ne_of_gt some
    rw [if_neg some] at owner canceled
    have uncut : (s.beginClose grace now).Uncut (now + grace) :=
      ⟨canceled.trans (h.opened held).2.1, .inl owner⟩
    obtain ⟨put, flow⟩ := Flow.run standing before
    have whole := begun.trans flow
    have all := whole.whole well (uncut.conduct early).1
    rw [nothing, List.append_nil, List.nil_append] at all
    rw [readable_of_owed_nil standing before later nothing, readable_eq, ← all]
    exact whole.bytes
  case within =>
    intro acts t kept late
    obtain ⟨idle, still⟩ := rests ((s.beginClose grace now).conduct acts) t
    obtain ⟨n, turn⟩ := (((s.beginClose grace now).conduct acts).advanceClose t).run_eq_conduct
    have same : ((((s.beginClose grace now).conduct acts).advanceClose t).run).advanceClose t =
        (s.beginClose grace now).conduct
          (acts ++ (.advanceClose t :: (List.replicate n .deliver ++ [.advanceClose t]))) := by
      rw [turn, conduct_append, conduct_cons, conduct_append]
      rfl
    rw [same] at idle still ⊢
    exact returns _ t (by simpa using kept) idle still (.inl late)
  case ended =>
    intro acts kept ended
    have released : ((s.beginClose grace now).conduct acts).owner = .released := by
      simpa [closeEnded] using ended
    have exited := (returning.conduct kept).returned released
    have nothing : ((s.beginClose grace now).conduct acts).owed = [] := by simp [owed, exited]
    exact ⟨exited, ((standing.conduct acts).ended exited).2, fun later =>
      readable_of_owed_nil standing acts later nothing⟩

end Fanout.Sink
