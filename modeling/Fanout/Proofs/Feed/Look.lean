import Fanout.Feed.Command

namespace Fanout

namespace Child

def outputOf : List Happening → Bytes
  | .output data :: rest => data ++ outputOf rest
  | .pause _ :: rest => outputOf rest
  | .closeOutput :: _ | .breakOutput _ :: _ | [] => []

def faultOf : List Happening → Option String
  | .output _ :: rest | .pause _ :: rest => faultOf rest
  | .breakOutput text :: _ => some text
  | .closeOutput :: _ | [] => none

def output (child : Child) : Bytes := outputOf child.happenings

def fault (child : Child) : Option String := faultOf child.happenings

def verdict (program : String) (child : Child) : FeedResult :=
  match child.fault with
  | some text => .error (.io text)
  | none =>
    match child.exit with
    | .ok status =>
      if status.isSuccess then .ok child.output.length
      else .error (.failed (CommandRun.exitText program status))
    | .error text => .error (.io text)

theorem verdict_eq_ok_iff {program : String} {child : Child} {n : Nat} :
    child.verdict program = .ok n ↔
      child.fault = none ∧ (∃ status, child.exit = .ok status ∧ status.isSuccess = true) ∧
        n = child.output.length := by
  unfold verdict
  cases child.fault with
  | some text => simp
  | none =>
    cases child.exit with
    | error text => simp
    | ok status =>
      by_cases success : status.isSuccess = true
      · simp [success, @eq_comm _ n]
      · simp [success]

theorem kill_eq (child : Child) : child.kill = ⟨[], child.kill.exit⟩ := by
  unfold kill
  split
  · rename_i done
    rw [← List.isEmpty_iff.mp done]
  · rfl

end Child

namespace CommandRun

theorem look_nothing (program : String) (run : CommandRun) :
    run.look program false .nothing = { run := run } := by
  cases run <;> rfl

theorem look_exited (program : String) (total : Nat) (status : ExitStatus) :
    (awaitingExit total).look program false (.exited status) =
      { run := .ended (if status.isSuccess then .ok total
          else .error (.failed (exitText program status))) } := by
  simp only [look, Bool.false_eq_true, if_false]
  split <;> rfl

end CommandRun

namespace Command

open CommandRun (look_nothing look_exited)

/-- What a pull is still going to read if its child is let be. -/
def unread (c : Command) : Bytes :=
  match c.run with
  | .reading _ => c.child.elim [] Child.output
  | _ => []

def result? (c : Command) : Option FeedResult :=
  match c.run with
  | .ended result => some result
  | _ => none

def cancel (c : Command) : Command :=
  { c with run := .ended (.error .canceled), child := c.child.map Child.kill }

def weight : Happening → Nat
  | .output data => data.length / readSize + 1
  | _ => 2

def waits : CommandRun → Nat
  | .reading _ => 2
  | .awaitingExit _ => 1
  | .ended _ => 0

/-- A bound on the looks that are left to be made at a child that is awake. -/
def effort (c : Command) : Nat :=
  -- one of the two looks at a pause is over once its end is set
  (c.child.elim 0 fun child => sum (child.happenings.map weight)) + waits c.run -
    (if c.pausedUntil.isSome then 1 else 0)

theorem looks_eq (c : Command) :
    c.looks = (c.child.elim 0 fun child => sum (child.happenings.map weight)) + 4 := by
  unfold looks
  cases c.child <;> rfl

theorem effort_lt_looks (c : Command) : c.effort < c.looks := by
  have few : waits c.run ≤ 2 := by
    cases c.run <;> simp [waits]
  rw [looks_eq, effort]
  omega

/-- How far the pull of `first` is that has forwarded `sent` and is left with `child`. -/
inductive Stage (first : Child) (sent : Bytes) (child : Child) : CommandRun → Prop
  | reading (shared : sent ++ child.output = first.output) (same : child.fault = first.fault) :
    Stage first sent child (.reading sent.length)
  | awaitingExit (whole : sent = first.output) (faultless : first.fault = none) :
    Stage first sent child (.awaitingExit sent.length)

structure Waiting (first : Child) (sent : Bytes) (child : Child) (c : Command) : Prop where
  present : c.child = some child
  exit : child.exit = first.exit
  stage : Stage first sent child c.run
  paused : c.pausedUntil.isSome = true → ∃ ms rest, child.happenings = .pause ms :: rest

structure Finished (first : Child) (sent : Bytes) (c : Command) : Prop where
  result : c.run = .ended (first.verdict c.program)
  whole : sent = first.output
  gone : ∃ exit, c.child = some ⟨[], exit⟩ ∧ (first.fault = none → exit = first.exit)

def Onward (first : Child) (sent : Bytes) (c : Command) : Prop :=
  (∃ child, Waiting first sent child c) ∨ Finished first sent c

variable {first child : Child} {sent : Bytes} {c : Command}

theorem isEnded_eq_false_iff : c.isEnded = false ↔ c.result? = none := by
  unfold isEnded result?
  cases c.run <;> simp

theorem Waiting.isEnded (h : Waiting first sent child c) : c.isEnded = false := by
  have stage := h.stage
  unfold Command.isEnded
  generalize c.run = run at stage
  cases stage <;> rfl

theorem Waiting.unread (h : Waiting first sent child c) : sent ++ c.unread = first.output := by
  obtain ⟨there, -, stage, -⟩ := h
  unfold Command.unread
  generalize c.run = run at stage
  cases stage with
  | reading shared same => simpa [there] using shared
  | awaitingExit whole faultless => simpa using whole

theorem find_keeps (c : Command) (now : Nat) :
    (c.find now).2.argv = c.argv ∧ (c.find now).2.begun = c.begun := by
  unfold find
  repeat' split
  all_goals exact ⟨rfl, rfl⟩

theorem glance_keeps (c : Command) (now : Nat) (canceled : Bool) :
    (c.glance now canceled).1.argv = c.argv ∧ (c.glance now canceled).1.begun = c.begun := by
  cases canceled with
  | true => exact ⟨rfl, rfl⟩
  | false => exact c.find_keeps now

theorem glance_canceled (going : c.isEnded = false) (now : Nat) :
    c.glance now true = (c.cancel, []) := by
  cases run : c.run with
  | ended result => simp [isEnded, run] at going
  | _ => simp [glance, run, CommandRun.look, cancel]

/-- A step to `next` that forwards `chunk` keeps the pull in order, and with the child awake it leaves
less to do. -/
structure Advances (first : Child) (sent : Bytes) (now : Nat) (c next : Command) (chunk : Bytes) :
    Prop where
  onward : Onward first (sent ++ chunk) next
  shorter : c.isPaused now = false → next.effort < c.effort

theorem Advances.silent {now : Nat} {next : Command} (onward : Onward first sent next)
    (shorter : c.isPaused now = false → next.effort < c.effort) :
    Advances first sent now c next [] :=
  ⟨(List.append_nil sent).symm ▸ onward, shorter⟩

theorem Waiting.awake (h : Waiting first sent child c)
    (busy : ∀ ms rest, child.happenings ≠ .pause ms :: rest) : c.pausedUntil = none := by
  cases asleep : c.pausedUntil with
  | none => rfl
  | some t =>
    obtain ⟨ms, rest, same⟩ := h.paused (by rw [asleep]; rfl)
    exact absurd same (busy ms rest)

variable {happenings rest : List Happening} {exit : Except String ExitStatus}
  {argv : List String} {begun : Bool} {chunk : Bytes} {now ms : Nat}

theorem advances_read (exits : exit = first.exit) (same : Child.faultOf rest = first.fault)
    (shared : sent ++ (chunk ++ Child.outputOf rest) = first.output)
    (shorter : sum (rest.map weight) < sum (happenings.map weight)) :
    Advances first sent now ⟨argv, some ⟨happenings, exit⟩, .reading sent.length, begun, none⟩
      ⟨argv, some ⟨rest, exit⟩, .reading (sent.length + chunk.length), begun, none⟩ chunk := by
  refine ⟨.inl ⟨⟨rest, exit⟩, rfl, exits, ?_, nofun⟩, fun _ => ?_⟩
  · rw [← List.length_append]
    refine .reading ?_ same
    rw [List.append_assoc]
    exact shared
  · simpa [effort, waits] using shorter

theorem advances_close (exits : exit = first.exit) (whole : sent = first.output)
    (faultless : first.fault = none)
    (shorter : sum (rest.map weight) ≤ sum (happenings.map weight)) :
    Advances first sent now ⟨argv, some ⟨happenings, exit⟩, .reading sent.length, begun, none⟩
      ⟨argv, some ⟨rest, exit⟩, .awaitingExit sent.length, begun, none⟩ [] := by
  refine .silent (.inl ⟨⟨rest, exit⟩, rfl, exits, .awaitingExit whole faultless, nofun⟩)
    fun _ => ?_
  simp only [effort, waits, Option.elim_some, Option.isSome_none, Bool.false_eq_true, if_false]
  omega

theorem advances_reading (exits : exit = first.exit)
    (shared : sent ++ Child.outputOf happenings = first.output)
    (same : Child.faultOf happenings = first.fault)
    (busy : ∀ ms rest, happenings ≠ .pause ms :: rest)
    (here : c = ⟨argv, some ⟨happenings, exit⟩, .reading sent.length, begun, none⟩) :
    Advances first sent now c (c.glance now false).1 (c.glance now false).2 := by
  subst here
  match happenings with
  | .output data :: rest =>
    by_cases small : data.length ≤ readSize
    · simp only [Command.glance, find, CommandRun.look, small, Bool.false_eq_true, if_false, if_true]
      exact advances_read exits same shared (by simp [sum, weight])
    · simp only [Command.glance, find, CommandRun.look, small, Bool.false_eq_true, if_false]
      refine advances_read exits same ?_ ?_
      · rw [← shared, Child.outputOf, ← List.append_assoc (data.take readSize),
          List.take_append_drop]
        rfl
      · -- what is left of the output takes one read less
        have fewer : (data.length - readSize) / readSize + 1 = data.length / readSize := by
          rw [← Nat.add_div_right _ (by decide), Nat.sub_add_cancel (by omega)]
        simp only [sum, List.map_cons, List.foldr_cons, weight, List.length_drop]
        omega
  | .closeOutput :: rest =>
    have whole : sent = first.output := by simpa [Child.outputOf] using shared
    simp only [Command.glance, find, CommandRun.look, Bool.false_eq_true, if_false]
    exact advances_close exits whole same.symm (by simp [sum])
  | .breakOutput text :: rest =>
    have whole : sent = first.output := by simpa [Child.outputOf] using shared
    have fault : first.fault = some text := same.symm
    simp only [Command.glance, find, CommandRun.look, Bool.false_eq_true, if_false, if_true]
    refine .silent (.inr ⟨?_, whole, _, congrArg some (Child.kill_eq _), fun none => ?_⟩)
      fun _ => ?_
    · simp [Child.verdict, fault]
    · rw [fault] at none
      cases none
    · rw [Option.map_some, Child.kill_eq]
      simp [effort, waits, sum]
  | [] =>
    have whole : sent = first.output := by simpa [Child.outputOf] using shared
    simp only [Command.glance, find, CommandRun.look, Bool.false_eq_true, if_false]
    exact advances_close exits whole same.symm (Nat.le_refl _)
  | .pause ms :: rest => exact absurd rfl (busy ms rest)

theorem advances_awaitingExit (exits : exit = first.exit) (whole : sent = first.output)
    (faultless : first.fault = none) (busy : ∀ ms rest, happenings ≠ .pause ms :: rest)
    (here : c = ⟨argv, some ⟨happenings, exit⟩, .awaitingExit sent.length, begun, none⟩) :
    Advances first sent now c (c.glance now false).1 (c.glance now false).2 := by
  have idle (happening : Happening) (rest : List Happening) :
      Advances first sent now
        ⟨argv, some ⟨happening :: rest, exit⟩, .awaitingExit sent.length, begun, none⟩
        ⟨argv, some ⟨rest, exit⟩, .awaitingExit sent.length, begun, none⟩ [] := by
    refine .silent (.inl ⟨⟨rest, exit⟩, rfl, exits, .awaitingExit whole faultless, nofun⟩)
      fun _ => ?_
    cases happening <;> simp [effort, waits, sum, weight]
  subst here
  match happenings with
  | .output _ :: rest | .closeOutput :: rest | .breakOutput _ :: rest =>
    simp only [Command.glance, find, CommandRun.look, Bool.false_eq_true, if_false]
    exact idle _ rest
  | [] =>
    cases exit with
    | ok status =>
      simp only [Command.glance, find, look_exited, Bool.false_eq_true, if_false]
      refine .silent (.inr ⟨?_, whole, .ok status, rfl, fun _ => exits⟩) fun _ => ?_
      · simp only [Child.verdict, faultless, ← exits, ← whole]
        rfl
      · simp [effort, waits, sum]
    | error text =>
      simp only [Command.glance, find, CommandRun.look, Bool.false_eq_true, if_false, if_true]
      refine .silent (.inr ⟨?_, whole, .error text, rfl, fun _ => exits⟩) fun _ => ?_
      · simp only [Child.verdict, faultless, ← exits]
      · simp [effort, waits, sum, Child.kill]
  | .pause ms :: rest => exact absurd rfl (busy ms rest)

theorem Stage.of_pause {run : CommandRun} (h : Stage first sent ⟨.pause ms :: rest, exit⟩ run) :
    Stage first sent ⟨rest, exit⟩ run := by
  cases h with
  | reading shared same => exact .reading shared same
  | awaitingExit whole faultless => exact .awaitingExit whole faultless

theorem advances_pause (h : Waiting first sent ⟨.pause ms :: rest, exit⟩ c) (now : Nat) :
    Advances first sent now c (c.glance now false).1 (c.glance now false).2 := by
  obtain ⟨argv, kid, run, begun, pausedUntil⟩ := c
  obtain ⟨rfl, exits, stage, -⟩ := h
  cases pausedUntil with
  | none =>
    simp only [Command.glance, find, look_nothing, Bool.false_eq_true, if_false]
    refine .silent (.inl ⟨⟨.pause ms :: rest, exit⟩, rfl, exits, stage, fun _ => ⟨ms, rest, rfl⟩⟩)
      fun _ => ?_
    simp only [effort, sum, weight, List.map_cons, List.foldr_cons, Option.elim_some,
      Option.isSome_some, Option.isSome_none, Bool.false_eq_true, if_true, if_false]
    omega
  | some t =>
    by_cases passed : t ≤ now
    · simp only [Command.glance, find, look_nothing, passed, Bool.false_eq_true, if_false,
        if_true]
      refine .silent (.inl ⟨⟨rest, exit⟩, rfl, exits, stage.of_pause, nofun⟩) fun _ => ?_
      simp only [effort, sum, weight, List.map_cons, List.foldr_cons, Option.elim_some,
        Option.isSome_some, Option.isSome_none, Bool.false_eq_true, if_true, if_false]
      omega
    · simp only [Command.glance, find, look_nothing, passed, Bool.false_eq_true, if_false]
      refine .silent (.inl ⟨⟨.pause ms :: rest, exit⟩, rfl, exits, stage,
        fun _ => ⟨ms, rest, rfl⟩⟩) fun awake => ?_
      simp [isPaused] at awake
      omega

theorem Waiting.advances (h : Waiting first sent child c) (now : Nat) :
    Advances first sent now c (c.glance now false).1 (c.glance now false).2 := by
  by_cases asleep : ∃ ms rest, child.happenings = .pause ms :: rest
  · obtain ⟨happenings, exit⟩ := child
    obtain ⟨ms, rest, rfl⟩ := asleep
    exact advances_pause h now
  · have busy : ∀ ms rest, child.happenings ≠ .pause ms :: rest := by
      intro ms rest same
      exact asleep ⟨ms, rest, same⟩
    have awake := h.awake busy
    obtain ⟨argv, kid, run, begun, pausedUntil⟩ := c
    obtain ⟨rfl, exits, stage, -⟩ := h
    obtain rfl : pausedUntil = none := awake
    cases stage with
    | reading shared same => exact advances_reading exits shared same busy rfl
    | awaitingExit whole faultless => exact advances_awaitingExit exits whole faultless busy rfl

theorem effort_cancel (c : Command) : c.cancel.effort = 0 := by
  cases kid : c.child with
  | none => simp [effort, cancel, kid, waits]
  | some child =>
    simp only [effort, cancel, kid, Option.map_some, Option.elim_some, waits]
    rw [Child.kill_eq]
    simp [sum]

theorem Waiting.effort_pos (h : Waiting first sent child c) : 0 < c.effort := by
  obtain ⟨there, -, stage, paused⟩ := h
  have own : 0 < waits c.run := by
    generalize c.run = run at stage
    cases stage <;> simp [waits]
  simp only [effort, there, Option.elim_some]
  split
  · rename_i asleep
    obtain ⟨ms, rest, pausing⟩ := paused asleep
    simp only [pausing, sum, weight, List.map_cons, List.foldr_cons]
    omega
  · omega

end Command

end Fanout
