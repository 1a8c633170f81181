import Fanout.Proofs.Relay.Closing

namespace Fanout

namespace Sink

variable {s : Sink}

/-- If nobody answers for the sink any more, the delivery has ended or must end. -/
def Stops (s : Sink) : Prop := s.owner = .released → s.task = .exited ∨ s.canceled = true

/-- A close is given up while it still flushes. -/
def GivesUp (s : Sink) (events : List SinkEvent) : Prop :=
  ∃ past rest deadline, events = past ++ .act .abandonClose :: rest ∧
    (s.after past).owner = .flushing deadline

/-- What it takes to let go of a sink, step by step: nobody but a flushing close waits for a delivery
that is not told to end. -/
structure LetsGo (s : Sink) : Prop where
  dropped : s.owner = .held →
    s.drop.owner = .released ∧ s.drop.closed = true ∧ s.drop.canceled = true
  flushes : s.owner = .held → ∀ grace now, 0 < grace →
    (s.beginClose grace now).owner = .flushing (now + grace) ∧ (s.beginClose grace now).closed = true
  aborts : s.owner = .held → ∀ now,
    (s.beginClose 0 now).owner = .aborting ∧ (s.beginClose 0 now).canceled = true
  overdue : ∀ deadline now, s.owner = .flushing deadline → deadline ≤ now → s.task ≠ .exited →
    (s.advanceClose now).owner = .aborting ∧ (s.advanceClose now).canceled = true
  seenThrough : s.owner ≠ .held → s.task = .exited → ∀ now, (s.advanceClose now).owner = .released
  givenUp : s.owner = .aborting → s.abandonClose.owner = .released ∧ s.abandonClose.canceled = true

theorem Standing.letsGo (h : s.Standing) : s.LetsGo := by
  have shut : s.closeQueue.closed = true := by
    rcases ({ s with closed := true } : Sink).notify_cases with ⟨-, same⟩ | same
    all_goals rw [Sink.closeQueue, same]
  constructor
  case dropped =>
    intro held
    rw [drop, held]
    exact ⟨rfl, shut, rfl⟩
  case flushes =>
    intro held grace now some
    rw [beginClose, held]
    dsimp only
    rw [if_neg (Nat.ne_of_gt some)]
    exact ⟨rfl, shut⟩
  case aborts =>
    intro held now
    rw [beginClose, held]
    exact ⟨rfl, rfl⟩
  case overdue =>
    intro deadline now flushing late going
    rw [advanceClose, flushing]
    dsimp only
    rw [if_neg going, if_pos late]
    exact ⟨rfl, rfl⟩
  case seenThrough =>
    intro begun exited now
    unfold advanceClose
    cases owner : s.owner with
    | held => exact absurd owner begun
    | released => exact owner
    | flushing deadline =>
      dsimp only
      rw [if_pos exited]
    | aborting =>
      dsimp only
      rw [if_pos exited]
  case givenUp =>
    intro aborting
    rw [abandonClose, aborting]
    exact ⟨rfl, h.aborting aborting⟩

theorem exited_notify (exited : s.task = .exited) : s.notify.task = .exited := by
  rcases s.notify_cases with ⟨waits, -⟩ | same
  · exact absurd (exited.symm.trans waits) nofun
  · rw [same]
    exact exited

theorem exited_handle (exited : s.task = .exited) (e : SinkEvent) : (s.handle e).task = .exited := by
  have shut : s.closeQueue.task = .exited := exited_notify (s := { s with closed := true }) exited
  cases e with
  | enqueue data =>
    simp only [handle, enqueue]
    split
    · exact exited
    · split <;> exact exited_notify exited
  | act a =>
    cases a with
    | deliver => simp [handle, act, step, exited]
    | read most => exact exited
    | dropReader => exact exited
    | drop =>
      simp only [handle, act, drop]
      split
      · exact shut
      · exact exited
    | beginClose grace now =>
      simp only [handle, act, beginClose]
      repeat' split
      · exact shut
      · exact shut
      · exact exited
    | advanceClose now =>
      simp only [handle, act, advanceClose]
      repeat' split
      all_goals exact exited
    | abandonClose =>
      simp only [handle, act, abandonClose]
      split <;> exact exited

theorem Standing.canceled_handle (h : s.Standing) (canceled : s.canceled = true) (e : SinkEvent) :
    (s.handle e).canceled = true := by
  cases e with
  | enqueue data => exact (s.enqueue_owner data).2.trans canceled
  | act a =>
    obtain ⟨put, flow⟩ := Flow.act h a
    exact flow.canceled canceled

theorem Standing.canceled_after (h : s.Standing) (canceled : s.canceled = true)
    (events : List SinkEvent) : (s.after events).canceled = true := by
  induction events generalizing s with
  | nil => exact canceled
  | cons e rest ih => exact ih (h.handle e) (h.canceled_handle canceled e)

theorem Stops.new (id depth : Nat) (pipe : Pipe) : (Sink.new id depth pipe).Stops := nofun

theorem Stops.handle (h : s.Stops) (standing : s.Standing) {e : SinkEvent}
    (kept : e = .act .abandonClose → ∀ deadline, s.owner ≠ .flushing deadline) :
    (s.handle e).Stops := by
  intro released
  by_cases before : s.owner = .released
  · rcases h before with exited | canceled
    · exact .inl (exited_handle exited e)
    · exact .inr (standing.canceled_handle canceled e)
  -- the owner lets go in this very event
  · cases e with
    | enqueue data => exact absurd ((s.enqueue_owner data).1.symm.trans released) before
    | act a =>
      cases a with
      | deliver => exact absurd (s.step_owner.1.symm.trans released) before
      | read most => exact absurd released before
      | dropReader => exact absurd released before
      | drop =>
        by_cases held : s.owner = .held
        · refine .inr ?_
          simp [Sink.handle, act, drop, held]
        · simp only [Sink.handle, act, drop_of_begun held] at released
          exact absurd released before
      | beginClose grace now =>
        by_cases held : s.owner = .held
        · have owner := (beginClose_owner held grace now).1
          simp only [Sink.handle, act, owner] at released
          split at released <;> cases released
        · simp only [Sink.handle, act, beginClose_of_begun held] at released
          exact absurd released before
      | advanceClose now =>
        simp only [Sink.handle, act, advanceClose] at released ⊢
        repeat' split at released
        all_goals simp_all
      | abandonClose =>
        cases owner : s.owner with
        | held => simp [Sink.handle, act, abandonClose, owner] at released
        | released => exact absurd owner before
        | flushing deadline => exact absurd owner (kept rfl deadline)
        | aborting =>
          refine .inr ?_
          simp [Sink.handle, act, abandonClose, owner, standing.aborting owner]

theorem GivesUp.append {events : List SinkEvent} (h : s.GivesUp events) (more : List SinkEvent) :
    s.GivesUp (events ++ more) := by
  obtain ⟨past, rest, deadline, rfl, flushing⟩ := h
  exact ⟨past, rest ++ more, deadline, by simp, flushing⟩

theorem Stops.after (h : s.Stops) (standing : s.Standing) {events : List SinkEvent}
    (kept : ¬ s.GivesUp events) : (s.after events).Stops := by
  induction events using List.reverseRecOn with
  | nil => exact h
  | append_singleton past e ih =>
    rw [after_append]
    refine Stops.handle (ih fun up => kept (up.append [e])) (standing.after past) ?_
    rintro rfl deadline flushing
    exact kept ⟨past, [], deadline, rfl, flushing⟩

/-- Nobody answers for the sink any more, and nobody has told the delivery to end. -/
def LeftRunning (s : Sink) : Prop := s.owner = .released ∧ s.canceled = false

theorem LeftRunning.handle (h : s.LeftRunning) (e : SinkEvent) : (s.handle e).LeftRunning := by
  obtain ⟨released, going⟩ := h
  have begun : s.owner ≠ .held := by simp [released]
  have kept {t : Sink} (same : t.owner = s.owner ∧ t.canceled = s.canceled) : t.LeftRunning :=
    ⟨same.1.trans released, same.2.trans going⟩
  cases e with
  | enqueue data => exact kept (s.enqueue_owner data)
  | act a =>
    cases a with
    | deliver => exact kept s.step_owner
    | read most => exact ⟨released, going⟩
    | dropReader => exact ⟨released, going⟩
    | drop =>
      rw [Sink.handle, act, drop_of_begun begun]
      exact ⟨released, going⟩
    | beginClose grace now =>
      rw [Sink.handle, act, beginClose_of_begun begun]
      exact ⟨released, going⟩
    | advanceClose now => simp [Sink.handle, act, advanceClose, LeftRunning, released, going]
    | abandonClose => simp [Sink.handle, act, abandonClose, LeftRunning, released, going]

theorem GivesUp.leftRunning {events : List SinkEvent} (h : s.GivesUp events) (standing : s.Standing) :
    (s.after events).LeftRunning := by
  obtain ⟨past, rest, deadline, rfl, flushing⟩ := h
  have given : ((s.after past).handle (.act .abandonClose)).LeftRunning := by
    have going := (standing.after past).flushing deadline flushing
    simp [Sink.handle, act, abandonClose, flushing, LeftRunning, going]
  rw [after_append, after_cons]
  generalize (s.after past).handle (.act .abandonClose) = t at given
  induction rest generalizing t with
  | nil => exact given
  | cons e rest ih => exact ih _ (given.handle e)

theorem readerGone_step (gone : s.pipe.readerGone = true) : s.step.pipe.readerGone = true := by
  unfold step
  repeat' split
  all_goals exact gone

/-- A delivery that must end, or whose reader is gone, ends by itself once the queue is closed. -/
theorem Standing.exited_run (h : s.Standing) (begun : s.owner ≠ .held)
    (free : s.canceled = true ∨ s.pipe.readerGone = true) : s.run.task = .exited := by
  obtain ⟨n, same⟩ := s.run_eq_conduct
  have idle := ready_run s
  rw [same] at idle ⊢
  -- neither who answers for the sink nor what sets the delivery free changes in the run
  have kept : (s.conduct (List.replicate n .deliver)).owner ≠ .held ∧
      ((s.conduct (List.replicate n .deliver)).canceled = true ∨
        (s.conduct (List.replicate n .deliver)).pipe.readerGone = true) := by
    clear idle same
    induction n generalizing s with
    | zero => exact ⟨begun, free⟩
    | succ n ih =>
      obtain ⟨owner, canceled⟩ := s.step_owner
      exact ih h.step (owner ▸ begun) (free.imp canceled.trans readerGone_step)
  have standing := h.conduct (List.replicate n .deliver)
  by_contra running
  obtain ⟨going, -, present, -⟩ := standing.blocked idle running (.inl (standing.shut.mpr kept.1))
  rcases kept.2 with canceled | gone
  · exact absurd (canceled.symm.trans going) (by decide)
  · exact absurd (gone.symm.trans present) (by decide)

end Sink

namespace Relay

variable {r : Relay} {config : RelayConfig} {text : Bytes}

/-- The close of the sink of number `id` is given up while it still flushes. -/
def GivesUp (r : Relay) (id : Nat) (events : List RelayEvent) : Prop :=
  ∃ past rest s deadline, events = past ++ .sink id .abandonClose :: rest ∧
    (r.after past).sink? id = some s ∧ s.owner = .flushing deadline

theorem GivesUp.append {id : Nat} {events : List RelayEvent} (h : r.GivesUp id events)
    (more : List RelayEvent) : r.GivesUp id (events ++ more) := by
  obtain ⟨past, rest, s, deadline, rfl, found, flushing⟩ := h
  exact ⟨past, rest ++ more, s, deadline, by simp, found, flushing⟩

theorem abandonClose_eq_after (r : Relay) (ids : List Nat) :
    r.abandonClose ids = r.after (ids.map fun id => .sink id .abandonClose) := by
  unfold abandonClose after
  rw [List.foldl_map]
  rfl

theorem dealt_cases (grace : Nat) (v : Viewer) (e : RelayEvent) :
    v.dealt grace e = [] ∨ ∃ d, v.dealt grace e = [d] ∧
      (d = .act .abandonClose → e = .sink v.sink.id .abandonClose) := by
  cases e with
  | write data =>
    simp only [Viewer.dealt]
    split
    · exact .inr ⟨_, rfl, by simp⟩
    · exact .inl rfl
  | close now =>
    simp only [Viewer.dealt]
    split
    · exact .inr ⟨_, rfl, by simp⟩
    · exact .inl rfl
  | sink id a =>
    simp only [Viewer.dealt]
    split
    · rename_i own
      refine .inr ⟨_, rfl, fun same => ?_⟩
      cases same
      rw [own]
    · exact .inl rfl
  | _ => exact .inl rfl

theorem stops_handle {grace : Nat} {v : Viewer} (h : v.sink.Stops) (standing : v.sink.Standing)
    {e : RelayEvent}
    (kept : e = .sink v.sink.id .abandonClose → ∀ deadline, v.sink.owner ≠ .flushing deadline) :
    (v.handle grace e).sink.Stops := by
  rw [Viewer.sink_handle]
  rcases dealt_cases grace v e with none | ⟨d, one, same⟩
  · rw [none]
    exact h
  · rw [one]
    exact h.handle standing fun up => kept (same up)

theorem stops_newcomer (r : Relay) (pipe : Pipe) : (r.newcomer pipe).sink.Stops := by
  intro released
  have held : (r.newcomer pipe).sink.owner = .held := by
    unfold newcomer backlog
    split
    · rfl
    · exact (Sink.enqueue_owner _ _).1
  exact absurd (held.symm.trans released) nofun

/-- By induction on the run from its end: what is done last either leaves the sink as it is, or is one
of its own events. -/
theorem stops_after (key : StreamKey) (config : RelayConfig) (events : List RelayEvent) :
    ∀ v ∈ ((Relay.new key config).after events).viewers,
      ¬ (Relay.new key config).GivesUp v.sink.id events → v.sink.Stops := by
  induction events using List.reverseRecOn with
  | nil => exact fun v member => nomatch member
  | append_singleton past e ih =>
    intro v member kept
    have standing := (Standing.new key config).after past
    have known := (Recorded.new key config).after past
    rw [after_append, after_cons, after_nil, viewers_handle, List.mem_append, List.mem_map] at member
    rcases member with ⟨before, there, rfl⟩ | joined
    · rw [Viewer.id_handle] at kept
      refine stops_handle (ih before there fun up => kept (up.append [e])) (standing before there) ?_
      rintro rfl deadline flushing
      obtain ⟨i, here⟩ := List.mem_iff_getElem?.mp there
      have found : ((Relay.new key config).after past).sink? before.sink.id = some before.sink := by
        rw [sink?, known.numbered i before here, known.viewer?, here, Option.map_some]
      exact kept ⟨past, [], before.sink, deadline, rfl, found, flushing⟩
    · cases e with
      | add pipe =>
        simp only [newcomers] at joined
        split at joined
        · cases joined
        · obtain rfl := List.mem_singleton.mp joined
          exact stops_newcomer _ pipe
      | _ => cases joined

end Relay

/-- Whoever lets go of a sink, alone or as one of a relay's, leaves a delivery that has ended or is
told to end, and one that is told to end ends without the reader's help. The only exception is a close
that is given up while it still flushes, which is what giving up the close of a relay does to its sinks:
that delivery is never told to end, and comes to rest at its end or at a full pipe, until the reader
goes on or is gone. -/
theorem let_go_unless_given_up (id depth : Nat) (pipe : Pipe) (events : List SinkEvent)
    (key : StreamKey) (config : RelayConfig) (operations : List RelayEvent) :
    let s := (Sink.new id depth pipe).after events
    let r := (Relay.new key config).after operations
    (s.owner = .released → ¬ (Sink.new id depth pipe).GivesUp events →
      s.task = .exited ∨ s.canceled = true) ∧
    (s.canceled = true → ∀ more, (s.after more).run.task = .exited) ∧
    ((Sink.new id depth pipe).GivesUp events →
      s.owner = .released ∧ s.canceled = false ∧ s.dropReader.run.task = .exited ∧
        (s.ready = false → s.task = .exited ∨ s.pipe.room = 0 ∧ s.pipe.readerGone = false)) ∧
    (∀ v ∈ r.viewers, v.sink.owner = .released →
      ¬ (Relay.new key config).GivesUp v.sink.id operations →
        v.sink.task = .exited ∨ v.sink.canceled = true) ∧
    (∀ ids, r.abandonClose ids = r.after (ids.map fun id => .sink id .abandonClose)) ∧
    s.LetsGo ∧ ∀ v ∈ r.viewers, v.sink.LetsGo := by
  intro s r
  have start := Sink.Standing.new id depth pipe
  have standing : s.Standing := start.after events
  refine ⟨fun released kept => ?dropped, fun canceled more => ?canceled, fun up => ?leftRunning,
    fun v member released kept => ?viewer, fun ids => r.abandonClose_eq_after ids,
    standing.letsGo, fun v member => ?letsGo⟩
  case dropped => exact (Sink.Stops.new id depth pipe).after start kept released
  case canceled =>
    have onward := standing.canceled_after canceled more
    have still := standing.after more
    exact still.exited_run (still.shut.mp (still.cut onward)) (.inl onward)
  case leftRunning =>
    obtain ⟨released, going⟩ := up.leftRunning start
    have begun : s.owner ≠ .held := by
      rw [show s.owner = .released from released]
      exact nofun
    refine ⟨released, going, (standing.act .dropReader).exited_run begun (.inr rfl), fun idle => ?_⟩
    by_cases exited : s.task = .exited
    · exact .inl exited
    · obtain ⟨-, full, present, -⟩ :=
        standing.blocked idle exited (.inl (standing.shut.mpr begun))
      exact .inr ⟨full, present⟩
  case viewer => exact Relay.stops_after key config operations v member kept released
  case letsGo => exact ((Relay.Standing.new key config).after operations v member).letsGo

/-- The sink of a reader who does not read is dropped in the middle of a write. -/
theorem let_go_of_dropped :
    let events : List SinkEvent :=
      .enqueue [1, 2, 3, 4, 5, 6, 7, 8] :: List.replicate 3 (.act .deliver)
    let s := (Sink.new 1 8 { capacity := 4 }).after events
    s.owner = .held ∧ s.task = .writing 8 [5, 6, 7, 8] ∧ s.ready = false ∧
      s.drop.owner = .released ∧ s.drop.canceled = true ∧ s.drop.task ≠ .exited ∧
      ∀ more, (s.drop.after more).run.task = .exited := by
  intro events s
  have held : s.owner = .held := by decide
  have going : s.drop.task ≠ .exited := by decide
  have same : (Sink.new 1 8 { capacity := 4 }).after (events ++ [.act .drop]) = s.drop := by
    rw [Sink.after_append]
    rfl
  obtain ⟨-, -, -, -, -, letsGo, -⟩ :=
    let_go_unless_given_up 1 8 { capacity := 4 } events ⟨"k"⟩ {} []
  obtain ⟨released, -⟩ := letsGo.dropped held
  have kept : ¬ (Sink.new 1 8 { capacity := 4 }).GivesUp (events ++ [.act .drop]) := by
    intro ⟨past, rest, deadline, split, _⟩
    have member : .act .abandonClose ∈ events ++ [.act .drop] := by
      rw [split]
      exact List.mem_append_right past List.mem_cons_self
    exact absurd member (by decide)
  obtain ⟨stops, ends, -⟩ :=
    let_go_unless_given_up 1 8 { capacity := 4 } (events ++ [.act .drop]) ⟨"k"⟩ {} []
  rw [same] at stops ends
  have canceled : s.drop.canceled = true := (stops released kept).resolve_left going
  exact ⟨held, by decide, by decide, released, canceled, going, ends canceled⟩

/-- The close of a relay is given up while its only viewer does not read: nobody answers for the sink
any more, and the delivery waits for ever, neither at its end nor told to end. -/
theorem stalled_after_giving_up :
    let r := (Relay.new ⟨"news"⟩ { replayCapacity := 16, queueDepth := 8, closeGrace := 5000 }).after
      ([.add { capacity := 4 }, .write [1, 2, 3, 4, 5, 6, 7, 8]] ++
        List.replicate 3 (.sink 1 .deliver))
    let (closing, ids) := r.beginClose 0
    ∃ s, (closing.abandonClose ids).sink? 1 = some s ∧ s.owner = .released ∧ s.task ≠ .exited ∧
      s.canceled = false ∧ (∀ n, Sink.step^[n] s = s) ∧ s.drop = s ∧ ∀ now, s.advanceClose now = s := by
  intro r
  refine ⟨_, rfl, by decide, by decide, by decide, fun n => Function.iterate_fixed ?_ n, by decide,
    fun now => rfl⟩
  decide

end Fanout
