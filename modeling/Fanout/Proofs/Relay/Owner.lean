import Fanout.Proofs.Registry.Change
import Fanout.Proofs.Relay.Event

namespace Fanout

namespace Sink

variable {s : Sink}

/-- Nobody answers for the sink any more, or somebody waits for a delivery that must stop. -/
def Cut (s : Sink) : Prop := s.owner = .released ∨ s.owner = .aborting ∧ s.canceled = true

namespace Cut

theorem begun (cut : s.Cut) : s.owner ≠ .held := by
  rcases cut with owner | ⟨owner, -⟩ <;> simp [owner]

theorem handle (cut : s.Cut) (e : SinkEvent) : (s.handle e).Cut := by
  have kept {t : Sink} (same : t.owner = s.owner ∧ t.canceled = s.canceled) : t.Cut := by
    unfold Cut
    rwa [same.1, same.2]
  cases e with
  | enqueue data => exact kept (s.enqueue_owner data)
  | act a =>
    cases a with
    | deliver => exact kept s.step_owner
    | read most => exact kept ⟨rfl, rfl⟩
    | dropReader => exact kept ⟨rfl, rfl⟩
    -- a sink that is let go of, or closed with or without grace, belongs to nobody else any more
    | drop =>
      change s.drop.Cut
      rwa [drop_of_begun cut.begun]
    | beginClose grace now =>
      change (s.beginClose grace now).Cut
      rwa [beginClose_of_begun cut.begun]
    | advanceClose now =>
      simp only [Sink.handle, act, advanceClose]
      rcases cut with owner | ⟨owner, canceled⟩
      · rw [owner]
        exact .inl owner
      · rw [owner]
        dsimp only
        split
        · exact .inl rfl
        · exact .inr ⟨owner, canceled⟩
    | abandonClose =>
      simp only [Sink.handle, act, abandonClose]
      rcases cut with owner | ⟨owner, canceled⟩
      · rw [owner]
        exact .inl owner
      · rw [owner]
        exact .inl rfl

theorem after (cut : s.Cut) (events : List SinkEvent) : (s.after events).Cut := by
  induction events generalizing s with
  | nil => exact cut
  | cons e rest ih => exact ih (cut.handle e)

theorem ended (cut : s.Cut) (now : Nat) (idle : s.ready = false)
    (still : s.closeReady now = false) : s.closeEnded = true := by
  rcases cut with released | ⟨aborting, canceled⟩
  · simp [closeEnded, released]
  · have exited : s.task = .exited := by
      unfold ready at idle
      cases task : s.task <;> simp [task, canceled] at idle ⊢
    simp [closeReady, aborting, exited] at still

end Cut

theorem cut_beginClose (held : s.owner = .held) (now : Nat) : (s.beginClose 0 now).Cut := by
  simp [Cut, beginClose, held]

end Sink

namespace Viewer

/-- The sink goes through some events, and is not let go of while its viewer is attached. -/
structure Evolves (v v' : Viewer) : Prop where
  sink : ∃ events, v'.sink = v.sink.after events
  held : v'.attached = true → v.attached = true ∧ (v.sink.owner = .held → v'.sink.owner = .held)

structure Kept (v : Viewer) (i : Nat) : Prop where
  number : v.sink.id = i + 1
  held : v.attached = true → v.sink.owner = .held

namespace Evolves

variable {v v' v'' : Viewer}

theorem refl (v : Viewer) : v.Evolves v := ⟨⟨[], rfl⟩, fun attached => ⟨attached, id⟩⟩

theorem trans (first : v.Evolves v') (second : v'.Evolves v'') : v.Evolves v'' where
  sink := by
    obtain ⟨before, same⟩ := first.sink
    obtain ⟨after, same'⟩ := second.sink
    refine ⟨before ++ after, ?_⟩
    rw [same', same, Sink.after_append]
  held attached := by
    obtain ⟨attached, still⟩ := second.held attached
    obtain ⟨attached, held⟩ := first.held attached
    exact ⟨attached, fun owner => still (held owner)⟩

theorem id (h : v.Evolves v') : v'.sink.id = v.sink.id := by
  obtain ⟨events, same⟩ := h.sink
  rw [same, Sink.after_id]

theorem cut (h : v.Evolves v') (cut : v.sink.Cut) : v'.sink.Cut := by
  obtain ⟨events, same⟩ := h.sink
  exact same ▸ cut.after events

theorem kept {i : Nat} (h : v.Evolves v') (kept : v.Kept i) :
    v'.Kept i where
  number := h.id.trans kept.number
  held attached := by
    obtain ⟨before, held⟩ := h.held attached
    exact held (kept.held before)

end Evolves

end Viewer

namespace Relay

structure Evolves (r r' : Relay) : Prop where
  viewers : ∀ (i : Nat) v, r.viewers[i]? = some v → ∃ v', r'.viewers[i]? = some v' ∧ v.Evolves v'
  newcomers : ∀ (i : Nat) v', r.viewers[i]? = none → r'.viewers[i]? = some v' → v'.Kept i

/-- The relay answers for the sinks of those who are attached. -/
def HoldsAttached (r : Relay) : Prop := ∀ (i : Nat) v, r.viewers[i]? = some v → v.Kept i

theorem HoldsAttached.initial (key : StreamKey) (config : RelayConfig) :
    (Relay.new key config).HoldsAttached := by
  intro i v here
  cases here

theorem HoldsAttached.viewer? {r : Relay} (holds : r.HoldsAttached) (i : Nat) :
    r.viewer? (i + 1) = r.viewers[i]? :=
  viewer?_of_numbered (fun i v here => (holds i v here).number) i

namespace Evolves

variable {r r' r'' : Relay} {id : Nat}

theorem of_viewers (same : r'.viewers = r.viewers) : r.Evolves r' where
  viewers i v here := ⟨v, same ▸ here, .refl v⟩
  newcomers i v' absent here := by
    rw [same, absent] at here
    cases here

theorem trans (first : r.Evolves r') (second : r'.Evolves r'') : r.Evolves r'' where
  viewers i v here := by
    obtain ⟨v', there, evolves⟩ := first.viewers i v here
    obtain ⟨v'', there', evolves'⟩ := second.viewers i v' there
    exact ⟨v'', there', evolves.trans evolves'⟩
  newcomers i v'' absent here := by
    cases between : r'.viewers[i]? with
    | none => exact second.newcomers i v'' between here
    | some v' =>
      obtain ⟨w, there, evolves⟩ := second.viewers i v' between
      cases here.symm.trans there
      exact evolves.kept (first.newcomers i v' absent between)

theorem holdsAttached (h : r.Evolves r') (holds : r.HoldsAttached) : r'.HoldsAttached := by
  intro i v' here
  cases before : r.viewers[i]? with
  | none => exact h.newcomers i v' before here
  | some v =>
    obtain ⟨w, there, evolves⟩ := h.viewers i v before
    cases here.symm.trans there
    exact evolves.kept (holds i v before)

theorem sink? {s : Sink} (h : r.Evolves r') (holds : r.HoldsAttached) (here : r.sink? id = some s) :
    ∃ s', r'.sink? id = some s' ∧ (s.Cut → s'.Cut) := by
  obtain ⟨v, found, rfl⟩ := Option.map_eq_some_iff.mp here
  obtain ⟨i, there⟩ := List.mem_iff_getElem?.mp (List.mem_of_find?_eq_some found)
  have own : v.sink.id = id := by simpa using List.find?_some found
  have number := (holds i v there).number
  obtain ⟨v', there', evolves⟩ := h.viewers i v there
  refine ⟨v'.sink, ?_, evolves.cut⟩
  rw [← own, number, Relay.sink?, (h.holdsAttached holds).viewer? i, there', Option.map_some]

theorem map {f : Viewer → Viewer} (viewers : r'.viewers = r.viewers.map f)
    (evolves : ∀ v ∈ r.viewers, v.Evolves (f v)) : r.Evolves r' where
  viewers i v here := by
    refine ⟨f v, ?_, evolves v (List.mem_of_getElem? here)⟩
    rw [viewers, List.getElem?_map, here]
    rfl
  newcomers i v' absent here := by
    rw [viewers, List.getElem?_map, absent] at here
    cases here

theorem updateSink {f : Sink → Sink} (events : ∀ s, ∃ events, f s = s.after events)
    (held : ∀ v ∈ r.viewers, v.sink.id = id → v.attached = true → v.sink.owner = .held →
      (f v.sink).owner = .held) : r.Evolves (r.updateSink id f) := by
  apply map rfl
  intro v member
  dsimp only
  split
  · rename_i own
    exact ⟨events v.sink, fun attached => ⟨attached, held v member own attached⟩⟩
  · exact .refl v

theorem handle (r : Relay) {e : RelayEvent} (op : ∀ id a, e ≠ .sink id a) :
    r.Evolves (r.handle e) := by
  have evolves (v : Viewer) : v.Evolves (v.handle r.config.closeGrace e) := by
    refine ⟨⟨_, v.sink_handle e⟩, ?_⟩
    cases e with
    | write data =>
      simp only [Viewer.handle, Viewer.offer]
      split
      · exact fun attached => ⟨attached, fun held => held⟩
      · split
        · exact fun attached => ⟨attached, fun held => (v.sink.enqueue_owner data).1.trans held⟩
        · exact fun attached => ⟨attached, fun held => held⟩
    | detach id =>
      simp only [Viewer.handle]
      split
      · intro attached
        cases attached
      · exact fun attached => ⟨attached, fun held => held⟩
    | close now =>
      simp only [Viewer.handle, Viewer.beginClose]
      split
      · intro attached
        cases attached
      · exact fun attached => ⟨attached, fun held => held⟩
    | sink id a => exact absurd rfl (op id a)
    | _ => exact fun attached => ⟨attached, fun held => held⟩
  have each := viewers_handle r e
  constructor
  · intro i v here
    exact ⟨_, getElem?_viewers_handle here e, evolves v⟩
  · intro i v' absent here
    have beyond := List.getElem?_eq_none_iff.mp absent
    rw [each, List.getElem?_append_right (by rwa [List.length_map]), List.length_map] at here
    cases e with
    | add pipe =>
      simp only [Relay.newcomers] at here
      split at here
      · cases here
      · have small := (List.getElem?_eq_some_iff.mp here).1
        rw [List.getElem?_singleton] at here
        split at here
        · cases here
          constructor
          · simp only [newcomer, Sink.after_id, Sink.new]
            rw [List.length_singleton] at small
            omega
          · intro _
            unfold newcomer backlog
            split
            · rfl
            · exact (Sink.enqueue_owner _ _).1
        · cases here
    | _ => cases here

theorem writeAll (r : Relay) (chunks : List Bytes) : r.Evolves (r.writeAll chunks).1 := by
  induction chunks generalizing r with
  | nil => exact .of_viewers rfl
  | cons data rest ih =>
    have wrote : r.Evolves (r.write data).1 := .handle r (e := .write data) nofun
    exact wrote.trans (ih _)

end Evolves

theorem HoldsAttached.cut {r : Relay} {id : Nat} (holds : r.HoldsAttached)
    (attached : r.isAttached id = true)
    (now : Nat) : ∃ s, ((r.handle (.detach id)).handle (.sink id (.beginClose 0 now))).sink? id =
      some s ∧ s.Cut := by
  simp only [isAttached, Relay.attached, List.any_eq_true, List.mem_filter, beq_iff_eq] at attached
  obtain ⟨v, ⟨member, attached⟩, own⟩ := attached
  obtain ⟨i, here⟩ := List.mem_iff_getElem?.mp member
  have kept := holds i v here
  obtain rfl : id = i + 1 := own.symm.trans kept.number
  have numbered := numbered_handle (numbered_handle (fun i v here => (holds i v here).number)
    (.detach (i + 1))) (.sink (i + 1) (.beginClose 0 now))
  have closed := getElem?_viewers_handle (getElem?_viewers_handle here (.detach (i + 1)))
    (.sink (i + 1) (.beginClose 0 now))
  have cut := Sink.cut_beginClose (kept.held attached) now
  refine ⟨v.sink.beginClose 0 now, ?_, cut⟩
  rw [Relay.sink?, viewer?_of_numbered numbered, closed]
  simp [Viewer.handle, own, Sink.act]

end Relay

end Fanout
