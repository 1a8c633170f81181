import Fanout.Proofs.Relay.Roster
import Fanout.Proofs.Relay.Window
import Fanout.Proofs.Sink.Event

namespace Fanout

namespace Sink

@[simp] theorem act_id (s : Sink) (a : SinkAct) : (s.act a).id = s.id := by
  cases a <;> simp [act]

@[simp] theorem handle_id (s : Sink) (e : SinkEvent) : (s.handle e).id = s.id := by
  cases e <;> simp [handle]

@[simp] theorem after_id (s : Sink) (events : List SinkEvent) : (s.after events).id = s.id := by
  induction events generalizing s with
  | nil => rfl
  | cons e rest ih => rw [after_cons, ih, handle_id]

end Sink

inductive RelayEvent where
  | write (data : Bytes)
  | add (pipe : Pipe)
  | detach (id : Nat)
  | retire
  | retireIfEmpty
  | close (now : Nat)
  | subscribe
  | withdraw (n : Nat)
  /-- Something happens to a sink, attached or not. Only the relay offers buffers to it. -/
  | sink (id : Nat) (a : SinkAct)
deriving DecidableEq

def RelayEvent.data : RelayEvent → Bytes
  | .write data => data
  | _ => []

def stream (events : List RelayEvent) : Bytes := events.flatMap RelayEvent.data

namespace Roster

def handle (s : Roster) : RelayEvent → Roster
  | .add _ => if s.closed then s else s.seat
  | .detach id => if id ∈ s.present then s.unseat id else s
  | .retire => s.retire
  | .retireIfEmpty => s.retireIfEmpty
  | .close _ => s.shut
  | .subscribe => s.subscribe
  | .withdraw n => s.withdraw n
  | .write _ | .sink _ _ => s

end Roster

namespace Relay

def handle (r : Relay) : RelayEvent → Relay
  | .write data => (r.write data).1
  | .add pipe => ((r.add pipe).map (·.1)).getD r
  | .detach id => (r.detach id).getD r
  | .retire => r.retire
  | .retireIfEmpty => r.retireIfEmpty.1
  | .close now => (r.beginClose now).1
  | .subscribe => r.subscribe.1
  | .withdraw n => r.withdraw n
  | .sink id a => r.updateSink id (·.act a)

def after (r : Relay) (events : List RelayEvent) : Relay := events.foldl handle r

@[simp] theorem after_nil (r : Relay) : r.after [] = r := rfl

@[simp] theorem after_cons (r : Relay) (e : RelayEvent) (events : List RelayEvent) :
    r.after (e :: events) = (r.handle e).after events := rfl

theorem after_append (r : Relay) (first second : List RelayEvent) :
    r.after (first ++ second) = (r.after first).after second := List.foldl_append

theorem roster_handle (r : Relay) (e : RelayEvent) : (r.handle e).roster = r.roster.handle e := by
  cases e with
  | write data => exact roster_write data
  | add pipe =>
    cases added : r.add pipe with
    | none =>
      have closed : r.roster.closed = true := add_eq_none_iff.mp added
      simp [handle, Roster.handle, added, closed]
    | some result =>
      obtain ⟨opened, -, -, same⟩ := roster_add added
      have opened : r.roster.closed = false := opened
      simp [handle, Roster.handle, added, opened, same]
  | detach id =>
    cases detached : r.detach id with
    | none =>
      have gone := detach_eq_none_iff.mp detached
      simp [handle, Roster.handle, detached, gone]
    | some r' =>
      obtain ⟨here, same⟩ := roster_detach detached
      simp [handle, Roster.handle, detached, here, same]
  | retire => rfl
  | retireIfEmpty => exact roster_retireIfEmpty.1
  | close now => exact roster_beginClose now
  | subscribe => exact roster_subscribe.1
  | withdraw n => exact roster_withdraw n
  | sink id a => exact roster_updateSink id fun s => s.act_id a

end Relay

namespace Viewer

def handle (grace : Nat) (v : Viewer) : RelayEvent → Viewer
  | .write data => if data.isEmpty then v else v.offer data
  | .detach id => if v.sink.id = id then { v with attached := false } else v
  | .close now => v.beginClose grace now
  | .sink id a => if v.sink.id = id then { v with sink := v.sink.act a } else v
  | _ => v

def dealt (grace : Nat) (v : Viewer) : RelayEvent → List SinkEvent
  | .write data => if data.isEmpty = false ∧ v.attached then [.enqueue data] else []
  | .close now => if v.attached then [.act (.beginClose grace now)] else []
  | .sink id a => if v.sink.id = id then [.act a] else []
  | _ => []

variable {grace : Nat} (v : Viewer) (e : RelayEvent)

theorem sink_handle : (v.handle grace e).sink = v.sink.after (v.dealt grace e) := by
  cases e with
  | write data =>
    simp only [handle, dealt, offer]
    split
    · rename_i empty
      simp [empty]
    · rename_i some
      split
      · rename_i attached
        simp [some, attached, Sink.handle]
      · rename_i detached
        simp [detached]
  | detach id =>
    simp only [handle, dealt]
    split <;> rfl
  | close now =>
    simp only [handle, dealt, beginClose]
    split <;> rfl
  | sink id a =>
    simp only [handle, dealt]
    split <;> rfl
  | _ => rfl

@[simp] theorem id_handle : (v.handle grace e).sink.id = v.sink.id := by
  rw [sink_handle, Sink.after_id]

end Viewer

namespace Relay

/-- What a viewer who joins is offered first. -/
def backlog (r : Relay) : List SinkEvent :=
  if r.replay.snapshot.isEmpty then [] else [.enqueue r.replay.snapshot]

def newcomer (r : Relay) (pipe : Pipe) : Viewer :=
  { sink := (Sink.new (r.viewers.length + 1) r.config.queueDepth pipe).after r.backlog }

theorem add_of_open {r : Relay} (opened : r.closed = false) (pipe : Pipe) :
    r.add pipe = some ({ r with viewers := r.viewers ++ [r.newcomer pipe] }, r.viewers.length + 1,
      r.isEmpty) := by
  simp only [add, opened, newcomer, backlog, Bool.false_eq_true, if_false]
  split <;> simp [Sink.handle]

theorem add_of_closed {r : Relay} (closed : r.closed = true) (pipe : Pipe) :
    r.add pipe = none := add_eq_none_iff.mpr closed

def newcomers (r : Relay) : RelayEvent → List Viewer
  | .add pipe => if r.closed then [] else [r.newcomer pipe]
  | _ => []

theorem viewers_handle (r : Relay) (e : RelayEvent) :
    (r.handle e).viewers =
      r.viewers.map (·.handle r.config.closeGrace e) ++ r.newcomers e := by
  cases e with
  | write data =>
    simp only [handle, write, newcomers, List.append_nil]
    split
    · rename_i empty
      simp [Viewer.handle, empty]
    · rename_i some
      simp [Viewer.handle, some]
  | add pipe =>
    cases closed : r.closed with
    | true => simp [handle, add_of_closed closed, newcomers, closed, Viewer.handle]
    | false => simp [handle, add_of_open closed, newcomers, closed, Viewer.handle]
  | detach n =>
    simp only [handle, newcomers, List.append_nil]
    cases here : r.isAttached n with
    | true =>
      simp only [detach, here, if_true, Option.getD_some]
      split <;> rfl
    | false =>
      simp only [detach, here, Bool.false_eq_true, if_false, Option.getD_none]
      have absent : ∀ v ∈ r.viewers, v.attached = true → v.sink.id ≠ n := by
        simpa [isAttached, attached] using here
      have same : ∀ v ∈ r.viewers, id v = v.handle r.config.closeGrace (.detach n) := by
        intro v member
        simp only [Viewer.handle]
        split
        · rename_i own
          cases attached : v.attached with
          | true => exact absurd own (absent v member attached)
          | false => exact (congrArg (Viewer.mk v.sink) attached)
        · rfl
      exact (List.map_id r.viewers).symm.trans (List.map_congr_left same)
  | retire => simp [handle, retire, newcomers, Viewer.handle]
  | retireIfEmpty =>
    simp only [handle, retireIfEmpty, newcomers]
    repeat' split
    all_goals simp [fire, Viewer.handle]
  | close now => simp [handle, Relay.beginClose, fire, newcomers, Viewer.handle]
  | subscribe => simp [handle, subscribe, newcomers, Viewer.handle]
  | withdraw n => cases n <;> simp [handle, withdraw, newcomers, Viewer.handle]
  | sink id a => simp [handle, updateSink, updateViewer, newcomers, Viewer.handle]

theorem getElem?_viewers_handle {r : Relay} {i : Nat} {v : Viewer} (here : r.viewers[i]? = some v)
    (e : RelayEvent) :
    (r.handle e).viewers[i]? = some (v.handle r.config.closeGrace e) := by
  have small : i < r.viewers.length := (List.getElem?_eq_some_iff.mp here).1
  rw [viewers_handle, List.getElem?_append_left (by simpa using small), List.getElem?_map, here,
    Option.map_some]

theorem books_of_quiet (r : Relay) {e : RelayEvent} (quiet : e.data = []) :
    (r.handle e).config = r.config ∧ (r.handle e).replay = r.replay ∧
      (r.handle e).written = r.written := by
  cases e with
  | write data =>
    have empty : data.isEmpty = true := List.isEmpty_iff.mpr quiet
    simp [handle, write, empty]
  | add pipe =>
    cases closed : r.closed with
    | true => simp [handle, add_of_closed closed]
    | false => simp [handle, add_of_open closed]
  | detach id =>
    simp only [handle, detach]
    repeat' split
    all_goals exact ⟨rfl, rfl, rfl⟩
  | retireIfEmpty =>
    simp only [handle, retireIfEmpty]
    repeat' split
    all_goals exact ⟨rfl, rfl, rfl⟩
  | withdraw n => cases n <;> exact ⟨rfl, rfl, rfl⟩
  | _ => exact ⟨rfl, rfl, rfl⟩

theorem books_of_write (r : Relay) {data : Bytes} (some : data ≠ []) :
    (r.handle (.write data)).config = r.config ∧
      (r.handle (.write data)).replay = r.replay.write data ∧
      (r.handle (.write data)).written = r.written + data.length := by
  have some : data.isEmpty = false := by simpa using some
  simp [handle, write, some]

theorem snd_write (r : Relay) (data : Bytes) : (r.write data).2 = data.length := by
  unfold write
  split
  · rename_i empty
    rw [List.isEmpty_iff.mp empty]
    rfl
  · rfl

theorem viewer?_of_numbered {r : Relay}
    (numbered : ∀ (i : Nat) v, r.viewers[i]? = some v → v.sink.id = i + 1) (i : Nat) :
    r.viewer? (i + 1) = r.viewers[i]? := by
  cases here : r.viewers[i]? with
  | some v =>
    obtain ⟨small, same⟩ := List.getElem?_eq_some_iff.mp here
    refine List.find?_eq_some_iff_getElem.mpr ⟨?_, i, small, same, fun j before => ?_⟩
    · simp [numbered i v here]
    · have earlier := numbered j _ (List.getElem?_eq_getElem (Nat.lt_trans before small))
      simp only [earlier, Bool.not_eq_true', beq_eq_false_iff_ne]
      omega
  | none =>
    refine List.find?_eq_none.mpr fun v member => ?_
    obtain ⟨j, there⟩ := List.mem_iff_getElem?.mp member
    have number := numbered j v there
    have differs : j ≠ i := by
      rintro rfl
      rw [here] at there
      cases there
    simp only [number, beq_iff_eq]
    omega

theorem numbered_handle {r : Relay}
    (numbered : ∀ (i : Nat) v, r.viewers[i]? = some v → v.sink.id = i + 1) (e : RelayEvent)
    (i : Nat) (v : Viewer) (here : (r.handle e).viewers[i]? = some v) : v.sink.id = i + 1 := by
  rw [viewers_handle, List.getElem?_append] at here
  split at here
  · rw [List.getElem?_map] at here
    obtain ⟨before, there, rfl⟩ := Option.map_eq_some_iff.mp here
    rw [Viewer.id_handle, numbered i before there]
  · rename_i beyond
    rw [List.length_map] at beyond here
    cases e with
    | add pipe =>
      simp only [newcomers] at here
      split at here
      · cases here
      · rw [List.getElem?_singleton] at here
        split at here
        · rename_i last
          obtain rfl := Option.some.inj here
          simp only [newcomer, Sink.after_id, Sink.new]
          omega
        · cases here
    | _ => cases here

/-- What a relay knows after `text` was written into it. -/
structure Recorded (r : Relay) (config : RelayConfig) (text : Bytes) : Prop where
  tuned : r.config = config
  numbered : ∀ i v, r.viewers[i]? = some v → v.sink.id = i + 1
  retains : r.replay.Retains text
  capacity : r.replay.capacity = config.replayCapacity
  written : r.written = text.length

namespace Recorded

variable {r : Relay} {config : RelayConfig} {text : Bytes}

theorem new (key : StreamKey) (config : RelayConfig) : (Relay.new key config).Recorded config [] where
  tuned := rfl
  numbered _ _ here := by cases here
  retains := Replay.Retains.new config.replayCapacity
  capacity := rfl
  written := rfl

theorem handle (known : r.Recorded config text) (e : RelayEvent) :
    (r.handle e).Recorded config (text ++ e.data) := by
  by_cases quiet : e.data = []
  · obtain ⟨same, replay, written⟩ := r.books_of_quiet quiet
    rw [quiet, List.append_nil]
    exact ⟨same.trans known.tuned, numbered_handle known.numbered e, replay ▸ known.retains,
      by rw [replay, known.capacity], written.trans known.written⟩
  · cases e with
    | write data =>
      have some : data ≠ [] := quiet
      obtain ⟨same, replay, written⟩ := r.books_of_write some
      have retains := known.retains.write data
      have capacity := (Replay.Shows.write known.retains data).1
      refine ⟨same.trans known.tuned, numbered_handle known.numbered _, replay ▸ retains, ?_, ?_⟩
      · rw [replay, capacity, known.capacity]
      · rw [written, known.written]
        exact List.length_append.symm
    | _ => exact absurd rfl quiet

theorem after (known : r.Recorded config text) (events : List RelayEvent) :
    (r.after events).Recorded config (text ++ stream events) := by
  induction events generalizing r text with
  | nil => exact (List.append_nil text).symm ▸ known
  | cons e rest ih =>
    have onward := ih (known.handle e)
    rw [List.append_assoc] at onward
    exact onward

theorem buffered (known : r.Recorded config text) :
    r.stats.bufferedBytes = min text.length config.replayCapacity := by
  rw [← known.capacity]
  exact known.retains.size

theorem viewer? (known : r.Recorded config text) (i : Nat) : r.viewer? (i + 1) = r.viewers[i]? :=
  viewer?_of_numbered known.numbered i

end Recorded

end Relay

end Fanout
