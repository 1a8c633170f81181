import Fanout.Proofs.Relay.Event
import Fanout.Relay.Writer

namespace Fanout

namespace Relay

variable {r : Relay} {config : RelayConfig} {text : Bytes} {id : Nat} {v : Viewer}

/-- What an operation does to the sink of the viewer of number `id`, who may join by it. -/
def dealt (r : Relay) (id : Nat) (e : RelayEvent) : List SinkEvent :=
  match r.viewer? id with
  | some v => v.dealt r.config.closeGrace e
  | none =>
    match e with
    | .add _ => if r.closed = false ∧ id = r.viewers.length + 1 then r.backlog else []
    | _ => []

def dealings (r : Relay) (id : Nat) : List RelayEvent → List SinkEvent
  | [] => []
  | e :: rest => r.dealt id e ++ (r.handle e).dealings id rest

/-- The writes that reach a viewer who is attached: those that are not empty, until the viewer is
detached or the relay is closed. -/
def live (id : Nat) : List RelayEvent → List Bytes
  | [] => []
  | .write data :: rest => if data = [] then live id rest else data :: live id rest
  | .detach other :: rest => if other = id then [] else live id rest
  | .close _ :: _ => []
  | _ :: rest => live id rest

theorem live_prefix (id : Nat) (events : List RelayEvent) :
    (live id events).flatten <+: stream events := by
  induction events with
  | nil => exact List.prefix_rfl
  | cons e rest ih =>
    cases e with
    | write data =>
      rw [live]
      split
      · rename_i empty
        rw [empty]
        exact ih
      · exact (List.prefix_append_right_inj data).mpr ih
    | detach other =>
      rw [live]
      split
      · exact List.nil_prefix
      · exact ih
    | close now => exact List.nil_prefix
    | _ => exact ih

theorem dealt_of_viewer? (here : r.viewer? id = some v) (e : RelayEvent) :
    r.dealt id e = v.dealt r.config.closeGrace e := by
  simp only [dealt, here]

theorem id_of_viewer? (here : r.viewer? id = some v) : v.sink.id = id := by
  simpa using List.find?_some here

namespace Recorded

theorem viewer?_handle (known : r.Recorded config text) (here : r.viewer? id = some v) (e : RelayEvent) :
    (r.handle e).viewer? id = some (v.handle r.config.closeGrace e) := by
  obtain ⟨i, there⟩ := List.mem_iff_getElem?.mp (List.mem_of_find?_eq_some here)
  have number : id = i + 1 := (id_of_viewer? here).symm.trans (known.numbered i v there)
  rw [number, (known.handle e).viewer? i, getElem?_viewers_handle there]

theorem sink?_after (known : r.Recorded config text) (here : r.viewer? id = some v)
    (events : List RelayEvent) :
    (r.after events).sink? id = some (v.sink.after (r.dealings id events)) := by
  induction events generalizing r text v with
  | nil => exact congrArg (Option.map Viewer.sink) here
  | cons e rest ih =>
    have onward := ih (known.handle e) (known.viewer?_handle here e)
    rw [after_cons, onward, Viewer.sink_handle, dealings, Sink.after_append,
      dealt_of_viewer? here]

theorem offers_dealings (known : r.Recorded config text) (here : r.viewer? id = some v)
    (events : List RelayEvent) :
    offers (r.dealings id events) = if v.attached then live id events else [] := by
  induction events generalizing r text v with
  | nil => simp [dealings, live, offers]
  | cons e rest ih =>
    have onward := ih (known.handle e) (known.viewer?_handle here e)
    have number := id_of_viewer? here
    rw [dealings, offers_append, onward, dealt_of_viewer? here]
    cases e with
    | write data =>
      have same : (v.handle r.config.closeGrace (.write data)).attached = v.attached := by
        simp only [Viewer.handle, Viewer.offer]
        repeat' split
        all_goals rfl
      rw [same, live, Viewer.dealt]
      cases data <;> cases v.attached <;> simp [offers, SinkEvent.offered]
    | detach other =>
      by_cases own : other = id
      · simp [Viewer.handle, Viewer.dealt, live, number, own, offers]
      · simp [Viewer.handle, Viewer.dealt, live, number, own, Ne.symm own, offers]
    | close now =>
      cases attached : v.attached <;>
        simp [Viewer.handle, Viewer.beginClose, Viewer.dealt, live, attached, offers,
          SinkEvent.offered]
    | sink other a =>
      have same : (v.handle r.config.closeGrace (.sink other a)).attached = v.attached := by
        simp only [Viewer.handle]
        split <;> rfl
      have silent : offers (v.dealt r.config.closeGrace (.sink other a)) = [] := by
        simp only [Viewer.dealt]
        split <;> rfl
      rw [same, silent, List.nil_append]
      rfl
    | _ => rfl

end Recorded

theorem Recorded.offers_backlog (known : r.Recorded config text) :
    offers r.backlog =
      if Bytes.suffix config.replayCapacity text = [] then []
      else [Bytes.suffix config.replayCapacity text] := by
  rw [backlog, known.retains.snapshot, known.capacity]
  cases Bytes.suffix config.replayCapacity text <;> rfl

theorem Recorded.joined (known : r.Recorded config text) (opened : r.closed = false) (pipe : Pipe) :
    r.viewer? (r.viewers.length + 1) = none ∧
      (r.handle (.add pipe)).viewer? (r.viewers.length + 1) = some (r.newcomer pipe) := by
  constructor
  · rw [known.viewer?]
    exact List.getElem?_eq_none (Nat.le_refl _)
  · rw [(known.handle _).viewer?, Relay.handle, add_of_open opened]
    exact List.getElem?_concat_length

theorem Recorded.offers_joined (known : r.Recorded config text) (opened : r.closed = false) (pipe : Pipe)
    (later : List RelayEvent) :
    let id := r.viewers.length + 1
    let deals := r.dealings id (.add pipe :: later)
    ((r.handle (.add pipe)).after later).sink? id =
        some ((Sink.new id r.config.queueDepth pipe).after deals) ∧
      offers deals = offers r.backlog ++ live id later := by
  intro id deals
  obtain ⟨absent, present⟩ := known.joined opened pipe
  have joined := known.handle (.add pipe)
  have first : deals = r.backlog ++ (r.handle (.add pipe)).dealings id later := by
    simp only [deals, dealings, dealt, id, absent, opened, and_self, if_true]
  constructor
  · rw [joined.sink?_after present later, first, Sink.after_append]
    rfl
  · rw [first, offers_append, joined.offers_dealings present later]
    rfl

end Relay

/-- A relay and the handles of those who write into it, told apart by numbers. -/
structure RelayWithWriters where
  relay : Relay
  writers : Nat → Writer := fun _ => {}

inductive WriterEvent where
  | relay (e : RelayEvent)
  | chunk (n : Nat) (data : Bytes)

namespace WriterEvent

def plain : WriterEvent → RelayEvent
  | .relay e => e
  | .chunk _ data => .write data

def through (n : Nat) : WriterEvent → Bytes
  | .chunk m data => if m = n then data else []
  | .relay _ => []

end WriterEvent

namespace RelayWithWriters

def new (key : StreamKey) (config : RelayConfig) : RelayWithWriters :=
  { relay := Relay.new key config }

def handle (s : RelayWithWriters) : WriterEvent → RelayWithWriters
  | .relay e => { s with relay := s.relay.handle e }
  | .chunk n data =>
    let (writer, relay, _) := (s.writers n).write s.relay data
    { relay := relay, writers := fun m => if m = n then writer else s.writers m }

def after (s : RelayWithWriters) (events : List WriterEvent) : RelayWithWriters :=
  events.foldl handle s

variable (s : RelayWithWriters)

theorem relay_handle (e : WriterEvent) : (s.handle e).relay = s.relay.handle e.plain := by
  cases e <;> rfl

theorem relay_after (events : List WriterEvent) :
    (s.after events).relay = s.relay.after (events.map WriterEvent.plain) := by
  induction events generalizing s with
  | nil => rfl
  | cons e rest ih =>
    have onward := ih (s.handle e)
    rw [relay_handle] at onward
    exact onward

theorem written_handle (e : WriterEvent) (n : Nat) :
    ((s.handle e).writers n).written = (s.writers n).written + (e.through n).length := by
  cases e with
  | relay e => rfl
  | chunk m data =>
    have reported := s.relay.snd_write data
    by_cases own : m = n
    · simp [handle, Writer.write, WriterEvent.through, own, reported]
    · simp [handle, WriterEvent.through, own, Ne.symm own]

theorem written_after (events : List WriterEvent) (n : Nat) :
    ((s.after events).writers n).written =
      (s.writers n).written + (events.flatMap (·.through n)).length := by
  induction events generalizing s with
  | nil => rfl
  | cons e rest ih =>
    have onward := ih (s.handle e)
    rw [written_handle, Nat.add_assoc, ← List.length_append] at onward
    exact onward

/-- Whatever is written into a relay, directly or through handles, a viewer who joins is offered the
last bytes of it in one buffer and after that every later write, until the viewer is detached or the
relay is closed: an unbroken stretch of all that is ever written, which begins as far before the
moment of joining as the relay can remember. -/
theorem catch_up_joins_live (key : StreamKey) (config : RelayConfig) (events : List WriterEvent) :
    let s := (RelayWithWriters.new key config).after events
    let text := stream (events.map WriterEvent.plain)
    (s.relay.written = text.length ∧
      s.relay.stats.bufferedBytes = min s.relay.written config.replayCapacity ∧
      ∀ n, (s.writers n).written = (events.flatMap (·.through n)).length) ∧
    ∀ (pipe : Pipe) (later : List WriterEvent),
      match s.relay.add pipe with
      | none => s.relay.closed = true
      | some (_, id, _) =>
        let coming := later.map WriterEvent.plain
        let past := Bytes.suffix config.replayCapacity text
        let deals := s.relay.dealings id (.add pipe :: coming)
        (s.after (.relay (.add pipe) :: later)).relay.sink? id =
            some ((Sink.new id config.queueDepth pipe).after deals) ∧
          offers deals = (if past = [] then [] else [past]) ++ Relay.live id coming ∧
          ∃ skipped missed,
            text ++ stream coming = skipped ++ (offers deals).flatten ++ missed ∧
              skipped.length + min text.length config.replayCapacity = text.length := by
  intro s text
  have known : s.relay.Recorded config text := by
    have reached := (Relay.Recorded.new key config).after (events.map WriterEvent.plain)
    rw [List.nil_append] at reached
    rw [relay_after]
    exact reached
  refine ⟨⟨known.written, ?_, fun n => ?_⟩, fun pipe later => ?_⟩
  · rw [known.buffered, known.written]
  · exact (written_after _ events n).trans (Nat.zero_add _)
  · rcases Bool.eq_false_or_eq_true s.relay.closed with closed | opened
    · rw [Relay.add_of_closed closed]
      exact closed
    · let coming := later.map WriterEvent.plain
      let past := Bytes.suffix config.replayCapacity text
      obtain ⟨found, offered⟩ := known.offers_joined opened pipe coming
      have reached : (s.after (.relay (.add pipe) :: later)).relay =
          (s.relay.handle (.add pipe)).after coming := s.relay_after _
      rw [known.tuned, ← reached] at found
      rw [known.offers_backlog] at offered
      obtain ⟨missed, whole⟩ := Relay.live_prefix (s.relay.viewers.length + 1) coming
      have flat : (if past = [] then [] else [past]).flatten = past := by
        by_cases nothing : past = [] <;> simp [nothing]
      have start : text.take (text.length - config.replayCapacity) ++ past = text :=
        List.take_append_drop _ _
      rw [Relay.add_of_open opened]
      refine ⟨found, offered, text.take (text.length - config.replayCapacity), missed, ?_, ?_⟩
      · rw [offered, List.flatten_append, flat, List.append_assoc, List.append_assoc, whole,
          ← List.append_assoc, start]
      · rw [List.length_take]
        omega

end RelayWithWriters

end Fanout
