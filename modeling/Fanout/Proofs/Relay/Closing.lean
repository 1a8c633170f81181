import Fanout.Proofs.Relay.Owner
import Fanout.Proofs.Sink.Closing

namespace Fanout

def SinkAct.letsGo : SinkAct → Bool
  | .drop | .beginClose _ _ => true
  | _ => false

def RelayEvent.own (id : Nat) : RelayEvent → Option SinkAct
  | .sink other a => if other = id then some a else none
  | _ => none

theorem Sink.owner_act {s : Sink} {a : SinkAct} (kept : a.letsGo = false) (held : s.owner = .held) :
    (s.act a).owner = .held := by
  cases a with
  | deliver => exact s.step_owner.1.trans held
  | read most => exact held
  | dropReader => exact held
  | drop => cases kept
  | beginClose grace now => cases kept
  | advanceClose now => simp [act, advanceClose, held]
  | abandonClose => simp [act, abandonClose, held]

namespace Relay

variable {r : Relay} {config : RelayConfig} {text : Bytes}

/-- Nobody but the relay lets go of the sink of a viewer who is attached. -/
def minds (r : Relay) : RelayEvent → Bool
  | .sink id a => !(a.letsGo && r.isAttached id)
  | _ => true

def minded (r : Relay) : List RelayEvent → Bool
  | [] => true
  | e :: rest => r.minds e && (r.handle e).minded rest

def Standing (r : Relay) : Prop := ∀ v ∈ r.viewers, v.sink.Standing

theorem Standing.new (key : StreamKey) (config : RelayConfig) : (Relay.new key config).Standing := by
  intro v member
  cases member

theorem Standing.handle (h : r.Standing) (e : RelayEvent) : (r.handle e).Standing := by
  intro v member
  rw [viewers_handle, List.mem_append, List.mem_map] at member
  rcases member with ⟨before, there, rfl⟩ | joined
  · rw [Viewer.sink_handle]
    exact (h before there).after _
  · cases e with
    | add pipe =>
      simp only [newcomers] at joined
      split at joined
      · cases joined
      · obtain rfl := List.mem_singleton.mp joined
        exact (Sink.Standing.new _ _ pipe).after _
    | _ => cases joined

theorem Standing.after (h : r.Standing) (events : List RelayEvent) : (r.after events).Standing := by
  induction events generalizing r with
  | nil => exact h
  | cons e rest ih => exact ih (h.handle e)

theorem Evolves.minds {e : RelayEvent} (minds : r.minds e = true) : r.Evolves (r.handle e) := by
  cases e with
  | sink id a =>
    refine .updateSink (fun s => ⟨[.act a], rfl⟩) fun v member own attached held => ?_
    have here : r.isAttached id = true := by
      simp only [isAttached, Relay.attached, List.any_eq_true, List.mem_filter]
      exact ⟨v, ⟨member, attached⟩, by simpa using own⟩
    have kept : a.letsGo = false := by simpa [Relay.minds, here] using minds
    exact Sink.owner_act kept held
  | _ => exact .handle r (by simp)

theorem HoldsAttached.after (holds : r.HoldsAttached) {events : List RelayEvent}
    (minded : r.minded events = true) :
    (r.after events).HoldsAttached := by
  induction events generalizing r with
  | nil => exact holds
  | cons e rest ih =>
    obtain ⟨minds, onward⟩ := Bool.and_eq_true_iff.mp minded
    exact ih ((Evolves.minds minds).holdsAttached holds) onward

theorem handle_of_detached (grace : Nat) {v : Viewer} (off : v.attached = false) (e : RelayEvent) :
    v.handle grace e = { v with sink := v.sink.conduct (e.own v.sink.id).toList } := by
  obtain ⟨s, attached⟩ := v
  obtain rfl : attached = false := off
  cases e with
  | write data => simp [Viewer.handle, Viewer.offer, RelayEvent.own, Sink.conduct]
  | detach id =>
    simp only [Viewer.handle]
    split <;> rfl
  | close now => rfl
  | sink id a =>
    by_cases own : s.id = id
    · simp [Viewer.handle, RelayEvent.own, own, Sink.conduct, Sink.handle]
    · simp [Viewer.handle, RelayEvent.own, own, Ne.symm own, Sink.conduct]
  | _ => rfl

theorem detached_after {i : Nat} {v : Viewer} (here : r.viewers[i]? = some v)
    (off : v.attached = false) (later : List RelayEvent) :
    (r.after later).viewers[i]? =
      some { v with sink := v.sink.conduct (later.filterMap (RelayEvent.own v.sink.id)) } := by
  induction later generalizing r v with
  | nil => exact here
  | cons e rest ih =>
    have there := getElem?_viewers_handle here e
    have moved := handle_of_detached r.config.closeGrace off e
    have same : (v.handle r.config.closeGrace e).sink.id = v.sink.id := v.id_handle e
    rw [after_cons, ih there (by rw [moved]; exact off), same]
    rw [moved]
    cases own : e.own v.sink.id with
    | none => simp [own, Sink.conduct]
    | some a => simp [own, Sink.conduct]

/-- What comes of a close of the relay that begins at the moment `now`, in every run that follows. -/
structure Closes (r : Relay) (now : Nat) : Prop where
  /-- Each of those who are attached is closed with the full grace. -/
  sinks : ∀ v ∈ r.viewers, v.attached = true → v.sink.Closes r.config.closeGrace now
  /-- All these closes have begun at once, and each goes on as if it were alone. -/
  alike : ∀ v ∈ r.viewers, v.attached = true → ∀ later,
    ((r.beginClose now).1.after later).sink? v.sink.id =
      some ((v.sink.beginClose r.config.closeGrace now).conduct
        (later.filterMap (RelayEvent.own v.sink.id)))
  /-- The close of the relay returns when all of them have. -/
  returns : ∀ later,
    ((r.beginClose now).1.after later).closeEnded (r.beginClose now).2 = true ↔
      ∀ v ∈ r.viewers, v.attached = true →
        ((v.sink.beginClose r.config.closeGrace now).conduct
          (later.filterMap (RelayEvent.own v.sink.id))).closeEnded = true

theorem Recorded.closes (known : r.Recorded config text) (holds : r.HoldsAttached)
    (standing : r.Standing)
    (now : Nat) : r.Closes now := by
  have alike : ∀ v ∈ r.viewers, v.attached = true → ∀ later,
      ((r.beginClose now).1.after later).sink? v.sink.id =
        some ((v.sink.beginClose r.config.closeGrace now).conduct
          (later.filterMap (RelayEvent.own v.sink.id))) := by
    intro v member attached later
    obtain ⟨i, here⟩ := List.mem_iff_getElem?.mp member
    have begun : v.handle r.config.closeGrace (.close now) =
        { sink := v.sink.beginClose r.config.closeGrace now, attached := false } := by
      simp [Viewer.handle, Viewer.beginClose, attached]
    have there := getElem?_viewers_handle here (.close now)
    rw [begun] at there
    have onward := detached_after there rfl later
    have found := ((known.handle (.close now)).after later).viewer? i
    rw [Sink.beginClose_id, known.numbered i v here] at onward
    rw [onward] at found
    rw [sink?, known.numbered i v here]
    exact congrArg (Option.map Viewer.sink) found
  refine ⟨fun v member attached => ?_, alike, fun later => ?_⟩
  · obtain ⟨i, here⟩ := List.mem_iff_getElem?.mp member
    exact (standing v member).closes ((holds i v here).held attached) _ now
  · constructor
    · intro ended v member attached
      have listed : v.sink.id ∈ (r.beginClose now).2 :=
        List.mem_map.mpr ⟨v, List.mem_filter.mpr ⟨member, attached⟩, rfl⟩
      have own := List.all_eq_true.mp ended _ listed
      rwa [alike v member attached later, Option.all_some] at own
    · intro ended
      refine List.all_eq_true.mpr fun id listed => ?_
      obtain ⟨v, there, rfl⟩ := List.mem_map.mp listed
      obtain ⟨member, attached⟩ := List.mem_filter.mp there
      rw [alike v member attached later, Option.all_some]
      exact ended v member attached

end Relay

/-- A close flushes or cuts. For every sink that is still held: with a grace the reader gets what was
owed if it is written before the grace has passed, otherwise a beginning of it, without a grace nothing
of it; the close returns once everything is written or the grace has passed, and then the delivery has
ended and nothing is added to the pipe any more. The close of a relay does the same for the sinks of
all who are attached, at once and each with the full grace. -/
theorem close_flushes_or_cuts :
    (∀ (id depth : Nat) (pipe : Pipe) (events : List SinkEvent) (grace now : Nat),
      ((Sink.new id depth pipe).after events).owner = .held →
        ((Sink.new id depth pipe).after events).Closes grace now) ∧
      ∀ (key : StreamKey) (config : RelayConfig) (events : List RelayEvent) (now : Nat),
        (Relay.new key config).minded events = true →
          ((Relay.new key config).after events).Closes now := by
  refine ⟨fun id depth pipe events grace now held => ?_, fun key config events now minded => ?_⟩
  · exact ((Sink.Standing.new id depth pipe).after events).closes held grace now
  · have known := (Relay.Recorded.new key config).after events
    have holds := (Relay.HoldsAttached.initial key config).after minded
    exact known.closes holds ((Relay.Standing.new key config).after events) now

/-- A sink in the middle of a write with a buffer in the queue, and a relay whose only viewer has such
a sink. -/
theorem closes_in_mid_write :
    let s := (Sink.new 1 8 { capacity := 2 }).after
      [.enqueue [1, 2, 3], .enqueue [4, 5], .act .deliver, .act .deliver]
    let events : List RelayEvent := [.add { capacity := 2 }, .write [1, 2, 3], .write [4, 5],
      .sink 1 .deliver, .sink 1 .deliver]
    let r := (Relay.new ⟨"k"⟩ {}).after events
    s.owner = .held ∧ s.task = .writing 3 [3] ∧ s.queue = [[4, 5]] ∧
      (∀ grace now, s.Closes grace now) ∧
      (Relay.new ⟨"k"⟩ {}).minded events = true ∧
      r.viewers.map (fun v => (v.attached, v.sink.task, v.sink.queue)) =
        [(true, s.task, s.queue)] ∧
      ∀ now, r.Closes now := by
  intro s events r
  obtain ⟨sinks, relays⟩ := close_flushes_or_cuts
  have held : s.owner = .held := by decide
  have minded : (Relay.new ⟨"k"⟩ {}).minded events = true := by decide
  refine ⟨held, by decide, by decide, ?_, minded, by decide, ?_⟩
  · intro grace now
    exact sinks 1 8 { capacity := 2 } _ grace now held
  · intro now
    exact relays ⟨"k"⟩ {} events now minded

end Fanout
