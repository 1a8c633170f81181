import Fanout.Proofs.Relay.CatchUp
import Fanout.Proofs.Sink.Rest

namespace Fanout

namespace Sink

variable (s : Sink)

def unnumbered : Sink := { s with id := 0 }

theorem notify_unnumbered : s.unnumbered.notify = s.notify.unnumbered := by
  cases task : s.task with
  | waiting notified => cases notified <;> simp [notify, unnumbered, task]
  | _ => simp [notify, unnumbered, task]

theorem enqueue_unnumbered (data : Bytes) :
    (s.unnumbered.enqueue data).1 = (s.enqueue data).1.unnumbered := by
  have closed : s.unnumbered.closed = s.closed := rfl
  have full : s.unnumbered.depth ≤ s.unnumbered.queue.length ↔ s.depth ≤ s.queue.length := Iff.rfl
  unfold enqueue
  simp only [closed, full]
  split
  · rfl
  · split
    · exact notify_unnumbered { s with queue := s.queue.tail ++ [data], dropped := s.dropped + 1 }
    · exact notify_unnumbered { s with queue := s.queue ++ [data] }

theorem step_unnumbered : s.unnumbered.step = s.step.unnumbered := by
  -- which way the step goes is decided by values of fields other than the number
  obtain ⟨id, depth, pipe, queue, closed, stored, canceled, failed, delivered, dropped, task, owner⟩ := s
  cases task with
  | looking =>
    cases queue with
    | nil => cases closed <;> rfl
    | cons data rest => cases failed <;> rfl
  | pausing => cases canceled <;> cases stored <;> rfl
  | waiting notified => cases canceled <;> cases notified <;> rfl
  | writing size rest =>
    simp only [step, apply_ite unnumbered]
    rfl
  | exited => rfl

theorem run_unnumbered : s.unnumbered.run = s.run.unnumbered := by
  have each : Function.Semiconj unnumbered step step := fun s => s.step_unnumbered.symm
  simp only [run, runFor_eq_iterate]
  exact (each.iterate_right _ s).symm

theorem closeQueue_unnumbered : s.unnumbered.closeQueue = s.closeQueue.unnumbered :=
  notify_unnumbered { s with closed := true }

theorem act_unnumbered (a : SinkAct) : s.unnumbered.act a = (s.act a).unnumbered := by
  have shut := s.closeQueue_unnumbered
  have owner : s.unnumbered.owner = s.owner := rfl
  have task : s.unnumbered.task = s.task := rfl
  cases a with
  | deliver => exact s.step_unnumbered
  | read most => rfl
  | dropReader => rfl
  | drop =>
    cases held : s.owner <;> simp only [act, drop, owner, held, shut]
    rfl
  | beginClose grace now =>
    cases held : s.owner <;> simp only [act, beginClose, owner, held, shut]
    split <;> rfl
  | advanceClose now =>
    cases held : s.owner <;> simp only [act, advanceClose, owner, held, task]
    · split
      · rfl
      · split <;> rfl
    · split <;> rfl
  | abandonClose => cases held : s.owner <;> simp only [act, abandonClose, owner, held] <;> rfl

theorem after_unnumbered (events : List SinkEvent) :
    s.unnumbered.after events = (s.after events).unnumbered := by
  induction events generalizing s with
  | nil => rfl
  | cons e rest ih =>
    have same : s.unnumbered.handle e = (s.handle e).unnumbered := by
      cases e with
      | enqueue data => exact s.enqueue_unnumbered data
      | act a => exact s.act_unnumbered a
    rw [after_cons, same, ih, after_cons]

end Sink

namespace Viewer

def unnumbered (v : Viewer) : Viewer := { v with sink := v.sink.unnumbered }

theorem write_unnumbered (v : Viewer) (grace : Nat) (data : Bytes) :
    v.unnumbered.handle grace (.write data) = (v.handle grace (.write data)).unnumbered := by
  obtain ⟨sink, attached⟩ := v
  simp only [handle, offer, unnumbered]
  cases data.isEmpty <;> cases attached <;> simp [Sink.enqueue_unnumbered]

end Viewer

/-- A relay of which one viewer is watched. -/
structure WatchedRelay where
  relay : Relay
  own : Option Nat := none
  shut : Bool := false
deriving DecidableEq

namespace WatchedRelay

inductive Act where
  | write (data : Bytes)
  | retire
  | close (now : Nat)
  | join (pipe : Pipe)
  | own (a : SinkAct)
  | detach
  | settle (steps : List (Nat × SinkAct))
  | aside (e : RelayEvent)
deriving DecidableEq

/-- What two runs have in common: not what others do, nor who is first when the deliveries go on. -/
def Act.shared? : Act → Option Act
  | .aside _ => none
  | .settle _ => some (.settle [])
  | e => some e

structure Figures where
  queued : Nat
  delivered : Nat
  dropped : Nat
  failed : Bool
deriving DecidableEq

/-- What can be seen of an act. -/
structure View where
  figures : Option Figures
  taken : Bytes
  ended : Bool
  answer : Option Nat
  replay : Bytes
deriving DecidableEq

def figures? (v : Viewer) : Option Figures :=
  if v.attached then
    some ⟨v.sink.queue.length, v.sink.delivered, v.sink.dropped, v.sink.failed⟩
  else none

def View.of (e : Act) (before after : Option Viewer) (answer : Bytes → Nat) (replay : Replay) : View where
  figures := after.bind figures?
  taken :=
    match e with
    | .own a => (before.map fun v => SinkEvent.taken v.sink (.act a)).getD []
    | _ => []
  ended := after.any (·.sink.pipe.atEnd)
  answer :=
    match e with
    | .write data => some (answer data)
    | _ => none
  replay := replay.snapshot

def start (key : StreamKey) (config : RelayConfig) : WatchedRelay := { relay := .new key config }

def viewer? (s : WatchedRelay) : Option Viewer := if s.shut then none else s.own.bind s.relay.viewer?

/-- The watched viewer has no part in the event. Once the relay is closed nobody is watched, and any
sink may go on by itself. -/
def spares (s : WatchedRelay) : RelayEvent → Bool
  | .write _ | .retire | .close _ => false
  | .detach id | .sink id _ => s.shut || s.own != some id
  | _ => true

/-- While the deliveries go on, the watched viewer does nothing and the others do what they like. -/
def allows (s : WatchedRelay) (step : Nat × SinkAct) : Bool :=
  step.2 == .deliver || s.spares (.sink step.1 step.2)

def atRest (s : WatchedRelay) : Bool := s.relay.viewers.all fun v => !v.sink.ready

def handle (s : WatchedRelay) (e : RelayEvent) : WatchedRelay := { s with relay := s.relay.handle e }

def after (s : WatchedRelay) (events : List RelayEvent) : WatchedRelay := events.foldl handle s

def act? (s : WatchedRelay) : Act → Option WatchedRelay
  | .write data => some (s.handle (.write data))
  | .retire => some (s.handle .retire)
  | .close now => some { s.handle (.close now) with shut := true }
  | .join pipe =>
    if s.own.isSome then none
    else (s.relay.add pipe).map fun (relay, id, _) => { s with relay := relay, own := some id }
  | .own a => s.own.map fun id => s.handle (.sink id a)
  | .detach => s.own.map fun id => s.handle (.detach id)
  | .settle steps =>
    let t := s.after (steps.map fun (id, a) => .sink id a)
    if steps.all s.allows ∧ t.atRest then some t else none
  | .aside e => if s.spares e then some (s.handle e) else none

def view (s : WatchedRelay) (e : Act) (t : WatchedRelay) : View :=
  .of e s.viewer? t.viewer? (fun data => (s.relay.write data).2) t.relay.replay

def views? (s : WatchedRelay) : List Act → Option (List View)
  | [] => some []
  | e :: rest => do
    let t ← s.act? e
    let later ← t.views? rest
    pure ((e.shared?.map fun _ => s.view e t).toList ++ later)

/-- The watched viewer and what of the relay concerns this viewer. -/
structure SoloState where
  replay : Replay
  viewer : Option Viewer
  shut : Bool

def solo (s : WatchedRelay) : SoloState := ⟨s.relay.replay, s.viewer?.map Viewer.unnumbered, s.shut⟩

namespace SoloState

variable (config : RelayConfig) (p : SoloState)

def newcomer (replay : Replay) (pipe : Pipe) : Viewer where
  sink := (Sink.new 0 config.queueDepth pipe).after
    (if replay.snapshot.isEmpty then [] else [.enqueue replay.snapshot])

def next : Act → SoloState
  | .write data =>
    { p with
      replay := p.replay.write data
      viewer := p.viewer.map (·.handle config.closeGrace (.write data)) }
  | .close _ => { p with viewer := none, shut := true }
  | .join pipe => { p with viewer := if p.shut then none else some (newcomer config p.replay pipe) }
  | .own a => { p with viewer := p.viewer.map fun v => { v with sink := v.sink.act a } }
  | .detach => { p with viewer := p.viewer.map fun v => { v with attached := false } }
  | .settle _ => { p with viewer := p.viewer.map fun v => { v with sink := v.sink.run } }
  | .retire | .aside _ => p

def views (p : SoloState) : List Act → List View
  | [] => []
  | e :: rest =>
    let q := p.next config e
    .of e p.viewer q.viewer List.length q.replay :: q.views rest

end SoloState

/-- The relay has kept its books, and the watched viewer is in them. -/
structure Known (s : WatchedRelay) (config : RelayConfig) : Prop where
  recorded : ∃ text, s.relay.Recorded config text
  joined : ∀ id, s.own = some id → ∃ v, s.relay.viewer? id = some v

variable {config : RelayConfig} {s t : WatchedRelay}

theorem Known.start (key : StreamKey) (config : RelayConfig) : (start key config).Known config where
  recorded := ⟨[], .new key config⟩
  joined _ own := nomatch own

theorem own_of_viewer? {v : Viewer} (here : s.viewer? = some v) :
    s.shut = false ∧ s.own = some v.sink.id := by
  unfold viewer? at here
  split at here
  · cases here
  · rename_i on
    obtain ⟨id, own, found⟩ := Option.bind_eq_some_iff.mp here
    exact ⟨by simpa using on, by rw [own, Relay.id_of_viewer? found]⟩

namespace Known

theorem handle (known : s.Known config) (e : RelayEvent) : (s.handle e).Known config where
  recorded := by
    obtain ⟨text, recorded⟩ := known.recorded
    exact ⟨_, recorded.handle e⟩
  joined id own := by
    obtain ⟨text, recorded⟩ := known.recorded
    obtain ⟨v, found⟩ := known.joined id own
    exact ⟨_, recorded.viewer?_handle found e⟩

theorem viewer?_handle (known : s.Known config) (e : RelayEvent) :
    (s.handle e).viewer? = s.viewer?.map (·.handle config.closeGrace e) := by
  obtain ⟨text, recorded⟩ := known.recorded
  cases shut : s.shut with
  | true => simp [viewer?, WatchedRelay.handle, shut]
  | false =>
    cases own : s.own with
    | none => simp [viewer?, WatchedRelay.handle, shut, own]
    | some id =>
      obtain ⟨v, found⟩ := known.joined id own
      have moved := recorded.viewer?_handle found e
      rw [recorded.tuned] at moved
      simp [viewer?, WatchedRelay.handle, shut, own, found, moved]

theorem viewer?_of_spares (known : s.Known config) {e : RelayEvent} (spared : s.spares e = true) :
    (s.handle e).viewer? = s.viewer? := by
  rw [known.viewer?_handle]
  cases here : s.viewer? with
  | none => rfl
  | some v =>
    obtain ⟨shut, own⟩ := own_of_viewer? here
    have same : v.handle config.closeGrace e = v := by
      cases e with
      | write data => cases spared
      | close now => cases spared
      | detach id =>
        have other : v.sink.id ≠ id := by simpa [spares, shut, own] using spared
        exact if_neg other
      | sink id a =>
        have other : v.sink.id ≠ id := by simpa [spares, shut, own] using spared
        exact if_neg other
      | _ => rfl
    rw [Option.map_some, same]

end Known

theorem data_of_spares {e : RelayEvent} (spared : s.spares e = true) : e.data = [] := by
  cases e with
  | write data => cases spared
  | _ => rfl

theorem replay_of_spares {e : RelayEvent} (spared : s.spares e = true) :
    (s.handle e).relay.replay = s.relay.replay :=
  (s.relay.books_of_quiet (data_of_spares spared)).2.1

theorem Known.deliver (known : s.Known config) {id : Nat} {a : SinkAct} (allowed : s.allows (id, a) = true) :
    ∃ n, (s.handle (.sink id a)).viewer? =
      s.viewer?.map fun v => { v with sink := Sink.step^[n] v.sink } := by
  by_cases spared : s.spares (.sink id a) = true
  · refine ⟨0, ?_⟩
    rw [known.viewer?_of_spares spared]
    exact Option.map_id'.symm
  · have deliver : a = .deliver := by simpa [allows, spared] using allowed
    subst deliver
    refine ⟨1, ?_⟩
    rw [known.viewer?_handle]
    cases here : s.viewer? with
    | none => rfl
    | some v =>
      obtain ⟨shut, own⟩ := own_of_viewer? here
      have number : v.sink.id = id := by simpa [spares, shut, own] using spared
      simp [Viewer.handle, number, Sink.act]

theorem Known.settle (known : s.Known config) (steps : List (Nat × SinkAct))
    (allowed : steps.all s.allows = true) :
    let t := s.after (steps.map fun (id, a) => .sink id a)
    t.Known config ∧ t.relay.replay = s.relay.replay ∧ t.shut = s.shut ∧
      ∃ n, t.viewer? = s.viewer?.map fun v => { v with sink := Sink.step^[n] v.sink } := by
  induction steps generalizing s with
  | nil => exact ⟨known, rfl, rfl, 0, Option.map_id'.symm⟩
  | cons step rest ih =>
    obtain ⟨id, a⟩ := step
    obtain ⟨first, others⟩ := Bool.and_eq_true_iff.mp allowed
    obtain ⟨n, here⟩ := known.deliver first
    obtain ⟨known', replay, shut, m, there⟩ := ih (known.handle (.sink id a)) others
    refine ⟨known', replay, shut, m + n, there.trans ?_⟩
    rw [here, Option.map_map]
    simp only [Function.comp_def, Function.iterate_add_apply]

/-- However the deliveries go on, the watched viewer's own comes to rest where it does alone. -/
theorem viewer?_atRest {n : Nat} (rest : t.atRest = true)
    (moved : t.viewer? = s.viewer?.map fun v => { v with sink := Sink.step^[n] v.sink }) :
    t.viewer? = s.viewer?.map fun v => { v with sink := v.sink.run } := by
  rw [moved]
  cases here : s.viewer? with
  | none => rfl
  | some v =>
    rw [here, Option.map_some] at moved
    obtain ⟨shut, own⟩ := own_of_viewer? moved
    have found : { v with sink := Sink.step^[n] v.sink } ∈ t.relay.viewers := by
      simp only [viewer?, shut, own, Bool.false_eq_true, if_false, Option.bind_some] at moved
      exact List.mem_of_find?_eq_some moved
    have idle : (Sink.step^[n] v.sink).ready = false := by
      simpa using List.all_eq_true.mp rest _ found
    rw [Option.map_some, Option.map_some, Sink.iterate_eq_run idle]

theorem replay_write (r : Relay) (data : Bytes) :
    (r.handle (.write data)).replay = r.replay.write data := by
  by_cases empty : data = []
  · rw [(r.books_of_quiet (e := .write data) empty).2.1, empty]
    simp [Replay.write, Replay.write?]
  · exact (r.books_of_write empty).2.1

/-- What the relay does to the watched viewer is what it does to a viewer alone. -/
theorem Known.solo_handle (known : s.Known config) {e : RelayEvent} (f : Viewer → Viewer)
    (alike : ∀ v, s.viewer? = some v → (v.handle config.closeGrace e).unnumbered = f v.unnumbered) :
    (s.handle e).solo = ⟨(s.relay.handle e).replay, s.solo.viewer.map f, s.shut⟩ := by
  simp only [solo, known.viewer?_handle e, Option.map_map]
  exact congrArg (SoloState.mk _ · s.shut) (Option.map_congr alike)

theorem act?_join {pipe : Pipe} (done : s.act? (.join pipe) = some t) :
    s.relay.closed = false ∧
      t = { s.handle (.add pipe) with own := some (s.relay.viewers.length + 1) } := by
  simp only [act?] at done
  split at done
  · cases done
  · cases closed : s.relay.closed with
    | true =>
      rw [Relay.add_of_closed closed] at done
      cases done
    | false =>
      rw [Relay.add_of_open closed] at done
      cases done
      simp [handle, Relay.handle, Relay.add_of_open closed]

theorem newcomer_unnumbered {r : Relay} (tuned : r.config = config) (pipe : Pipe) :
    (r.newcomer pipe).unnumbered = SoloState.newcomer config r.replay pipe := by
  rw [Relay.newcomer, Viewer.unnumbered, ← Sink.after_unnumbered, tuned]
  rfl

theorem Known.join (known : s.Known config) {pipe : Pipe} (done : s.act? (.join pipe) = some t) :
    t.Known config ∧ t.solo = s.solo.next config (.join pipe) := by
  obtain ⟨text, recorded⟩ := known.recorded
  obtain ⟨opened, rfl⟩ := act?_join done
  obtain ⟨-, found⟩ := recorded.joined opened pipe
  have replay : (s.relay.handle (.add pipe)).replay = s.relay.replay :=
    (s.relay.books_of_quiet (e := .add pipe) rfl).2.1
  refine ⟨⟨⟨_, recorded.handle (.add pipe)⟩, ?_⟩, ?_⟩
  · rintro id ⟨⟩
    exact ⟨_, found⟩
  · cases shut : s.shut <;>
      simp [solo, SoloState.next, WatchedRelay.handle, viewer?, shut, replay, found,
        newcomer_unnumbered recorded.tuned]

theorem Known.act? (known : s.Known config) {e : Act} (done : s.act? e = some t) :
    t.Known config ∧ t.solo = s.solo.next config e := by
  cases e with
  | write data =>
    cases done
    refine ⟨known.handle _, ?_⟩
    rw [known.solo_handle (·.handle config.closeGrace (.write data))
      fun v _ => (v.write_unnumbered _ data).symm, replay_write]
    rfl
  | retire =>
    cases done
    refine ⟨known.handle _, ?_⟩
    rw [known.solo_handle id fun v _ => rfl, Option.map_id]
    rfl
  | close now =>
    cases done
    have still := known.handle (.close now)
    exact ⟨⟨still.recorded, still.joined⟩, rfl⟩
  | join pipe => exact known.join done
  | own a =>
    obtain ⟨id, own, rfl⟩ := Option.map_eq_some_iff.mp done
    refine ⟨known.handle _, known.solo_handle _ fun v here => ?_⟩
    obtain rfl : v.sink.id = id := Option.some.inj ((own_of_viewer? here).2.symm.trans own)
    simp [Viewer.handle, Viewer.unnumbered, Sink.act_unnumbered]
  | detach =>
    obtain ⟨id, own, rfl⟩ := Option.map_eq_some_iff.mp done
    have replay : (s.relay.handle (.detach id)).replay = s.relay.replay :=
      (s.relay.books_of_quiet (e := .detach id) rfl).2.1
    refine ⟨known.handle _, ?_⟩
    rw [known.solo_handle (fun v => { v with attached := false }) fun v here => ?_, replay]
    · rfl
    · obtain rfl : v.sink.id = id := Option.some.inj ((own_of_viewer? here).2.symm.trans own)
      simp [Viewer.handle, Viewer.unnumbered]
  | settle steps =>
    simp only [WatchedRelay.act?] at done
    split at done
    -- the viewer alone is not told of the steps, only that the delivery has come to rest
    · rename_i settled
      cases done
      obtain ⟨known', replay, shut, n, moved⟩ := known.settle steps settled.1
      have viewer := viewer?_atRest settled.2 moved
      refine ⟨known', ?_⟩
      simp only [solo, replay, shut, viewer, SoloState.next, Option.map_map, Function.comp_def,
        Viewer.unnumbered, Sink.run_unnumbered]
    · cases done
  | aside e =>
    simp only [WatchedRelay.act?] at done
    split at done
    · rename_i spared
      cases done
      refine ⟨known.handle e, ?_⟩
      simp only [solo, SoloState.next, known.viewer?_of_spares spared, replay_of_spares spared]
      rfl
    · cases done

theorem View.of_unnumbered (e : Act) (before after : Option Viewer) (answer : Bytes → Nat)
    (replay : Replay) :
    View.of e (before.map Viewer.unnumbered) (after.map Viewer.unnumbered) answer replay =
      .of e before after answer replay := by
  cases before <;> cases after <;> cases e <;> rfl

theorem view_eq (s : WatchedRelay) (e : Act) (t : WatchedRelay) :
    s.view e t = .of e s.solo.viewer t.solo.viewer List.length t.solo.replay := by
  have answer : (fun data => (s.relay.write data).2) = List.length := by
    funext data
    cases data <;> rfl
  rw [view, answer]
  exact (View.of_unnumbered ..).symm

namespace SoloState

theorem next_of_shared (config : RelayConfig) (p : SoloState) (e : Act) :
    match e.shared? with
    | none => p.next config e = p
    | some d => p.next config d = p.next config e ∧ View.of d = View.of e := by
  cases e with
  | aside e => rfl
  | _ => exact ⟨rfl, rfl⟩

end SoloState

theorem views?_eq (known : s.Known config) {acts : List Act} {seen : List View}
    (ran : s.views? acts = some seen) :
    seen = s.solo.views config (acts.filterMap Act.shared?) := by
  induction acts generalizing s seen with
  | nil => exact (Option.some.inj ran).symm
  | cons e rest ih =>
    obtain ⟨t, done, later, ran', rfl⟩ : ∃ t, s.act? e = some t ∧ ∃ later, t.views? rest = some later ∧
        (e.shared?.map fun _ => s.view e t).toList ++ later = seen := by
      simpa [views?, Option.bind_eq_some_iff] using ran
    obtain ⟨known', moved⟩ := known.act? done
    rw [ih known' ran', moved]
    have shown := s.solo.next_of_shared config e
    cases shared : e.shared? with
    | none =>
      rw [shared] at shown
      rw [List.filterMap_cons_none shared, shown]
      rfl
    | some d =>
      rw [shared] at shown
      obtain ⟨same, view⟩ := shown
      rw [List.filterMap_cons_some shared, SoloState.views, same, view, view_eq, moved]
      rfl

/-- Whatever the other viewers do, and in whatever order the deliveries go on, a viewer has the same
figures while attached, reads the same bytes and comes to the same end, every write reports the same
length and the replay window is the same. -/
theorem views_eq_of_shared_eq (key : StreamKey) (config : RelayConfig) {first second : List Act}
    {one two : List View} (same : first.filterMap Act.shared? = second.filterMap Act.shared?)
    (ran : (start key config).views? first = some one)
    (ran' : (start key config).views? second = some two) : one = two := by
  rw [views?_eq (.start key config) ran, views?_eq (.start key config) ran', same]

/-- A viewer who is alone, and the same viewer beside one who never reads and one who leaves. -/
theorem views_beside_stalled :
    let s := start ⟨"news"⟩ { replayCapacity := 4, queueDepth := 1, closeGrace := 100 }
    let run (ids : List Nat) : List (Nat × SinkAct) :=
      ids.flatMap fun id => List.replicate 9 (id, .deliver)
    let alone : List Act :=
      [.write [1, 2], .join { capacity := 3 }, .settle (run [1]), .write [3, 4], .settle (run [1]),
        .write [5], .write [6], .own (.read 3), .settle (run [1]), .detach, .own .drop,
        .settle (run [1]), .own (.read 9), .close 0, .write [7]]
    let beside : List Act :=
      [.aside (.add { capacity := 0 }), .write [1, 2], .join { capacity := 3 },
        .aside (.add { capacity := 9 }), .settle (run [1, 2, 3]), .write [3, 4],
        .aside (.sink 3 .dropReader), .settle (run [3, 2, 1]), .write [5], .aside (.detach 3),
        .write [6], .own (.read 3), .settle (run [2, 3, 1]), .detach, .own .drop,
        .settle (run [1, 2]), .own (.read 9), .close 0, .aside (.sink 2 (.advanceClose 1)), .write [7]]
    alone.filterMap Act.shared? = beside.filterMap Act.shared? ∧
      (s.views? alone).isSome ∧ (s.views? beside).isSome ∧ s.views? alone = s.views? beside := by
  intro s run alone beside
  have same : alone.filterMap Act.shared? = beside.filterMap Act.shared? := by decide +kernel
  have goes : (s.views? alone).isSome := by decide +kernel
  have goes' : (s.views? beside).isSome := by decide +kernel
  obtain ⟨one, ran⟩ := Option.isSome_iff_exists.mp goes
  obtain ⟨two, ran'⟩ := Option.isSome_iff_exists.mp goes'
  refine ⟨same, goes, goes', ?_⟩
  rw [ran, ran', views_eq_of_shared_eq ⟨"news"⟩ _ same ran ran']

end WatchedRelay

end Fanout
