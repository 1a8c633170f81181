import Fanout.Proofs.Feed.Look
import Fanout.Proofs.Relay.Event

namespace Fanout

theorem Relay.Recorded.writeAll {r : Relay} {config : RelayConfig} {text : Bytes}
    (known : r.Recorded config text) (chunks : List Bytes) :
    (r.writeAll chunks).1.Recorded config (text ++ chunks.flatten) ∧
      (r.writeAll chunks).2 = chunks.map List.length := by
  induction chunks generalizing r text with
  | nil => exact ⟨(List.append_nil text).symm ▸ known, rfl⟩
  | cons data rest ih =>
    obtain ⟨onward, others⟩ := ih (known.handle (.write data))
    constructor
    · rw [List.flatten_cons, ← List.append_assoc]
      exact onward
    · exact congrArg₂ List.cons (r.snd_write data) others

structure Look where
  now : Nat
  canceled : Bool

namespace Command

def launched (argv : List String) (child : Child) : Command :=
  { argv := argv, child := some child, begun := true }

/-- From the start of the child `first` these looks, none of them later than the end, have led to `c`,
and `sent` has been forwarded. -/
inductive Looked (argv : List String) (first : Child) : List Look → Bytes → Command → Prop
  | launch : Looked argv first [] [] (launched argv first)
  | look {looks : List Look} {sent : Bytes} {c : Command} (before : Looked argv first looks sent c)
      (going : c.isEnded = false) (l : Look) :
    Looked argv first (looks ++ [l]) (sent ++ (c.glance l.now l.canceled).2)
      (c.glance l.now l.canceled).1

/-- The last of the looks found the pull canceled and ended it at once. -/
def Stopped (argv : List String) (first : Child) (looks : List Look) (sent : Bytes) (c : Command) :
    Prop :=
  ∃ before l d, looks = before ++ [l] ∧ l.canceled = true ∧ (∀ e ∈ before, e.canceled = false) ∧
    Looked argv first before sent d ∧ d.isEnded = false ∧ c = d.cancel

variable {argv : List String} {first child : Child} {looks : List Look} {sent : Bytes}
  {c : Command} {written : List Bytes}

theorem waiting_launched (argv : List String) (first : Child) :
    Waiting first [] first (launched argv first) where
  present := rfl
  exit := rfl
  stage := .reading rfl rfl
  paused := nofun

theorem Finished.isEnded (h : Finished first sent c) : c.isEnded = true := by
  simp [Command.isEnded, h.result]

theorem Finished.result?_eq (h : Finished first sent c) :
    c.result? = some (first.verdict c.program) := by
  simp [result?, h.result]

theorem Finished.unread (h : Finished first sent c) : sent ++ c.unread = first.output := by
  simp [Command.unread, h.result, h.whole]

theorem Onward.waiting (h : Onward first sent c) (going : c.isEnded = false) :
    ∃ child, Waiting first sent child c := by
  rcases h with waiting | finished
  · exact waiting
  · rw [finished.isEnded] at going
    cases going

namespace Looked

-- a canceled look ends the pull, so that no look can follow it
theorem onward_or_stopped (h : Looked argv first looks sent c) :
    ((∀ l ∈ looks, l.canceled = false) ∧ Onward first sent c) ∨ Stopped argv first looks sent c := by
  induction h with
  | launch => exact .inl ⟨nofun, .inl ⟨first, waiting_launched argv first⟩⟩
  | @look looks sent c before going l ih =>
    obtain ⟨calm, onward⟩ | ⟨_, _, d, -, -, -, -, -, rfl⟩ := ih
    · cases canceled : l.canceled with
      | true =>
        rw [glance_canceled going, List.append_nil]
        exact .inr ⟨looks, l, c, rfl, canceled, calm, before, going, rfl⟩
      | false =>
        obtain ⟨child, waiting⟩ := onward.waiting going
        refine .inl ⟨fun e member => ?_, (waiting.advances l.now).onward⟩
        rcases List.mem_append.mp member with earlier | last
        · exact calm e earlier
        · rw [List.mem_singleton.mp last, canceled]
    · cases going

theorem keeps (h : Looked argv first looks sent c) : c.argv = argv ∧ c.begun = true := by
  induction h with
  | launch => exact ⟨rfl, rfl⟩
  | @look _ _ c _ _ l ih =>
    obtain ⟨argv, begun⟩ := c.glance_keeps l.now l.canceled
    exact ⟨argv.trans ih.1, begun.trans ih.2⟩

theorem waiting (h : Looked argv first looks sent c) (going : c.isEnded = false) :
    ∃ child, Waiting first sent child c := by
  obtain ⟨-, onward⟩ | ⟨_, _, d, -, -, -, -, -, rfl⟩ := h.onward_or_stopped
  · exact onward.waiting going
  · cases going

theorem shorter (h : Looked argv first looks sent c) (going : c.isEnded = false) {l : Look}
    (awake : l.canceled = true ∨ c.isPaused l.now = false) :
    (c.glance l.now l.canceled).1.effort < c.effort := by
  obtain ⟨child, waiting⟩ := h.waiting going
  obtain ⟨now, _ | _⟩ := l
  · exact (waiting.advances now).shorter (awake.resolve_left nofun)
  · rw [glance_canceled going, effort_cancel]
    exact waiting.effort_pos

end Looked

/-- A turn from `c` to `next`: some looks, all by the clock and the cancellation of the turn, until the
pull ends or has to wait for the clock. -/
structure Turned (argv : List String) (first : Child) (looks : List Look) (sent : Bytes) (l : Look)
    (next : Command) (turn : Turn) : Prop where
  looked : ∃ n, Looked argv first (looks ++ List.replicate n l) (sent ++ turn.writes.flatten) next
  ending : turn.ending = next.result?.map .returned
  settled : next.isEnded = false → l.canceled = false ∧ next.isPaused l.now = true

theorem forward_of_ended {result : FeedResult} (ended : c.run = .ended result) (now : Nat)
    (canceled : Bool) (fuel : Nat) (written : List Bytes) :
    c.forward now canceled (fuel + 1) written = (c, ⟨written, some (.returned result)⟩) := by
  simp only [Command.forward, ended]

theorem forward_of_paused (going : c.isEnded = false) {now : Nat} (asleep : c.isPaused now = true)
    (fuel : Nat) (written : List Bytes) :
    c.forward now false (fuel + 1) written = (c, { writes := written }) := by
  cases run : c.run with
  | ended result => simp [Command.isEnded, run] at going
  | _ => simp [Command.forward, run, asleep]

def added (written : List Bytes) (chunk : Bytes) : List Bytes :=
  if chunk.isEmpty then written else written ++ [chunk]

theorem flatten_added (written : List Bytes) (chunk : Bytes) :
    (added written chunk).flatten = written.flatten ++ chunk := by
  unfold added
  split
  · rename_i empty
    rw [List.isEmpty_iff.mp empty, List.append_nil]
  · rw [List.flatten_append, List.flatten_singleton]

theorem forward_of_awake (going : c.isEnded = false) {now : Nat} {canceled : Bool}
    (awake : canceled = true ∨ c.isPaused now = false) (fuel : Nat) (written : List Bytes) :
    c.forward now canceled (fuel + 1) written =
      (c.glance now canceled).1.forward now canceled fuel
        (added written (c.glance now canceled).2) := by
  have go : (c.isPaused now && !canceled) = false := by
    rcases awake with canceled | awake
    · simp [canceled]
    · simp [awake]
  cases run : c.run with
  | ended result => simp [Command.isEnded, run] at going
  | _ => simp only [Command.forward, run, go, Bool.false_eq_true, if_false, added]

theorem Looked.forward (h : Looked argv first looks (sent ++ written.flatten) c) (l : Look)
    {fuel : Nat} (enough : c.effort < fuel) :
    Turned argv first looks sent l (c.forward l.now l.canceled fuel written).1
      (c.forward l.now l.canceled fuel written).2 := by
  induction fuel generalizing looks c written with
  | zero => omega
  | succ fuel ih =>
    have here : ∃ n, Looked argv first (looks ++ List.replicate n l) (sent ++ written.flatten) c :=
      ⟨0, by rwa [List.replicate_zero, List.append_nil]⟩
    cases going : c.isEnded with
    | true =>
      cases run : c.run with
      | ended result =>
        rw [forward_of_ended run]
        exact ⟨here, by simp [result?, run], fun waiting => absurd (going.symm.trans waiting) nofun⟩
      | _ => simp [Command.isEnded, run] at going
    | false =>
      by_cases awake : l.canceled = true ∨ c.isPaused l.now = false
      · rw [forward_of_awake going awake]
        have shorter := h.shorter going awake
        have onward := h.look going l
        rw [List.append_assoc, ← flatten_added] at onward
        obtain ⟨⟨n, looked⟩, ending, settled⟩ := ih onward (by omega)
        rw [List.append_assoc, List.singleton_append, ← List.replicate_succ] at looked
        exact ⟨⟨n + 1, looked⟩, ending, settled⟩
      · obtain ⟨now, canceled⟩ := l
        simp only [not_or, Bool.not_eq_true, Bool.not_eq_false] at awake
        obtain ⟨rfl, asleep⟩ := awake
        rw [forward_of_paused going asleep]
        refine ⟨here, ?_, fun _ => ⟨rfl, asleep⟩⟩
        rw [isEnded_eq_false_iff.mp going]
        rfl

theorem forward_canceled (going : c.isEnded = false) (now fuel : Nat) :
    c.forward now true (fuel + 2) [] =
      (c.cancel, { ending := some (.returned (.error .canceled)) }) := by
  rw [forward_of_awake going (.inl rfl), glance_canceled going]
  exact forward_of_ended rfl now true fuel []

/-- What is right about a pull of `first` that these looks have led to `c`. -/
structure Reports (argv : List String) (first : Child) (looks : List Look) (sent : Bytes)
    (c : Command) : Prop where
  /-- Nothing is forwarded but the beginning of the output. -/
  front : sent <+: first.output
  /-- What has been read is forwarded. -/
  forwarded : (∀ l ∈ looks, l.canceled = false) → sent ++ c.unread = first.output
  verdict : (∀ l ∈ looks, l.canceled = false) → ∀ result, c.result? = some result →
    result = first.verdict (argv.headD "")
  success : ∀ n, c.result? = some (.ok n) →
    (∀ l ∈ looks, l.canceled = false) ∧ first.fault = none ∧
      (∃ status, first.exit = .ok status ∧ status.isSuccess = true) ∧
      c.child = some ⟨[], first.exit⟩ ∧ sent = first.output ∧ n = sent.length
  /-- The first look that finds the pull canceled is the last one, whatever the child is about to
  do. -/
  canceled : ∀ l ∈ looks, l.canceled = true →
    c.result? = some (.error .canceled) ∧ Stopped argv first looks sent c
  /-- No child outlives its pull. -/
  gone : c.isEnded = true → ∃ exit, c.child = some ⟨[], exit⟩
  /-- The pull is waked by its cancellation and by the end of a pause. -/
  alert : ∀ canceled now, c.ready canceled now = (canceled || !c.isPaused now)

structure Resumed (argv : List String) (first : Child) (looks : List Look) (sent : Bytes) (l : Look)
    (c next : Command) (turn : Turn) : Prop extends Turned argv first looks sent l next turn where
  stopped : l.canceled = true → c.isEnded = false →
    next = c.cancel ∧ turn = { ending := some (.returned (.error .canceled)) }
  relayed : ∀ (r : Relay) config text, r.Recorded config text →
    (r.writeAll turn.writes).1.Recorded config (text ++ turn.writes.flatten) ∧
      (r.writeAll turn.writes).2 = turn.writes.map List.length

namespace Looked

theorem present (h : Looked argv first looks sent c) : c.child.isSome = true := by
  obtain ⟨-, ⟨child, waiting⟩ | finished⟩ | ⟨before, l, d, -, -, -, looked, going, rfl⟩ :=
    h.onward_or_stopped
  · rw [waiting.present, Option.isSome_some]
  · obtain ⟨exit, gone, -⟩ := finished.gone
    rw [gone, Option.isSome_some]
  · obtain ⟨child, waiting⟩ := looked.waiting going
    simp [cancel, waiting.present]

theorem alert (h : Looked argv first looks sent c) (canceled : Bool) (now : Nat) :
    c.ready canceled now = (canceled || !c.isPaused now) := by
  simp [ready, h.keeps.2, h.present]

theorem reports (h : Looked argv first looks sent c) : Reports argv first looks sent c := by
  have alert := h.alert
  obtain ⟨calm, ⟨child, waiting⟩ | finished⟩ | stopped := h.onward_or_stopped
  · have going := isEnded_eq_false_iff.mp waiting.isEnded
    exact {
      front := ⟨_, waiting.unread⟩
      forwarded := fun _ => waiting.unread
      verdict := fun _ result ended => by rw [going] at ended; cases ended
      success := fun n ended => by rw [going] at ended; cases ended
      canceled := fun l member canceled => by rw [calm l member] at canceled; cases canceled
      gone := fun ended => by rw [waiting.isEnded] at ended; cases ended
      alert := alert }
  · have ended : c.result? = some (first.verdict (argv.headD "")) := by
      rw [finished.result?_eq, program, h.keeps.1]
    exact {
      front := finished.whole ▸ List.prefix_rfl
      forwarded := fun _ => finished.unread
      verdict := fun _ result same => (Option.some.inj (ended.symm.trans same)).symm
      success := fun n same => by
        have ok := Option.some.inj (ended.symm.trans same)
        obtain ⟨faultless, success, counted⟩ := Child.verdict_eq_ok_iff.mp ok
        obtain ⟨exit, gone, own⟩ := finished.gone
        rw [own faultless] at gone
        exact ⟨calm, faultless, success, gone, finished.whole, finished.whole ▸ counted⟩
      canceled := fun l member canceled => by rw [calm l member] at canceled; cases canceled
      gone := fun _ => finished.gone.imp fun _ => And.left
      alert := alert }
  · have also := stopped
    obtain ⟨before, last, d, rfl, found, -, looked, going, rfl⟩ := also
    obtain ⟨child, waiting⟩ := looked.waiting going
    have uncalm : ¬∀ l ∈ before ++ [last], l.canceled = false := by
      intro calm
      have := calm last (by simp)
      rw [found] at this
      cases this
    exact {
      front := ⟨_, waiting.unread⟩
      forwarded := fun calm => absurd calm uncalm
      verdict := fun calm => absurd calm uncalm
      success := nofun
      canceled := fun _ _ _ => ⟨rfl, stopped⟩
      gone := fun _ => ⟨child.kill.exit, by
        rw [cancel, waiting.present, Option.map_some, ← Child.kill_eq]⟩
      alert := alert }

theorem resumed (h : Looked argv first looks sent c) (start : List String → Except String Child)
    (l : Look) :
    Resumed argv first looks sent l c (c.resume start l.canceled l.now).1
      (c.resume start l.canceled l.now).2 := by
  have same : c.resume start l.canceled l.now = c.forward l.now l.canceled c.looks [] := by
    simp [resume, h.keeps.2]
  have onward : Looked argv first looks (sent ++ ([] : List Bytes).flatten) c := by
    simpa using h
  rw [same]
  refine ⟨onward.forward l c.effort_lt_looks, fun canceled going => ?_,
    fun r config text known => known.writeAll _⟩
  rw [canceled, looks_eq, forward_canceled going]
  exact ⟨rfl, rfl⟩

end Looked

/-- A command whose child cannot be started fails with the reason and forwards nothing. Otherwise, at
whatever looks the pull is found canceled and whatever the child does, what has been read of its output
is what has been forwarded; a canceled look kills the child and makes the result; without one the
result is what the output and the exit make it, and a success counts the bytes forwarded. Every turn is
made of such looks, and ends the pull unless the child is pausing. -/
theorem forwards_and_reports (start : List String → Except String Child) (argv : List String) :
    let fresh : Command := { argv := argv }
    match start argv with
    | .error text =>
      ∀ canceled now, (fresh.resume start canceled now).2 =
        { writes := []
          ending := some (.returned (.error (.spawn (argv.headD "" ++ ": " ++ text)))) }
    | .ok first =>
      (∀ canceled now,
        fresh.resume start canceled now = (launched argv first).resume start canceled now) ∧
      ∀ looks sent c, Looked argv first looks sent c →
        Reports argv first looks sent c ∧
          ∀ l : Look, Resumed argv first looks sent l c (c.resume start l.canceled l.now).1
            (c.resume start l.canceled l.now).2 := by
  intro fresh
  cases started : start argv with
  | error text =>
    intro canceled now
    simp [fresh, resume, started, program]
  | ok first =>
    refine ⟨fun canceled now => ?_, fun looks sent c looked => ⟨looked.reports, looked.resumed start⟩⟩
    simp [fresh, resume, started, launched]

/-- A child that lives on after the end of its output can still be canceled. -/
theorem canceled_after_output :
    let first : Child := ⟨[.output [104, 105], .closeOutput, .pause 20000], .ok (.code 0)⟩
    let start : List String → Except String Child := fun _ => .ok first
    let (c, turn) := (launched ["sh"] first).resume start false 0
    (turn.writes = [[104, 105]] ∧ turn.ending.isNone = true ∧ c.unread = []) ∧
      (c.resume start true 200).1.child = some ⟨[], .ok (.signal 9 false)⟩ ∧
      (c.resume start true 200).2 = { ending := some (.returned (.error .canceled)) } := by
  intro first start
  obtain ⟨-, lawful⟩ := forwards_and_reports start ["sh"]
  obtain ⟨n, looked⟩ := ((lawful _ _ _ .launch).2 ⟨0, false⟩).looked
  exact ⟨⟨rfl, rfl, rfl⟩, rfl, (((lawful _ _ _ looked).2 ⟨200, true⟩).stopped rfl rfl).2⟩

end Command

end Fanout
