import Fanout.Proofs.Broker.Event
import Fanout.Proofs.Registry.Owner
import Fanout.Proofs.Schedule

namespace Fanout

def Event.uncalled : Event → Bool
  | .run _ | .tick _ => true
  | _ => false

namespace Registry

variable {g : Registry} {place : Nat × Nat} {p : Sink → Bool}

theorem mem_sinksWhere (chosen : (g.sink? place).any p = true) : place ∈ g.sinksWhere p := by
  obtain ⟨s, here, chosen⟩ := (Option.any_eq_true _ _).mp chosen
  obtain ⟨r, relay, here⟩ := Option.bind_eq_some_iff.mp here
  obtain ⟨v, found, rfl⟩ := Option.map_eq_some_iff.mp here
  have own : v.sink.id = place.2 := by simpa using List.find?_some found
  unfold sinksWhere
  rw [List.mem_flatMap]
  refine ⟨(r, place.1), List.mem_zipIdx_iff_getElem?.mpr relay, ?_⟩
  rw [List.mem_map]
  exact ⟨v, List.mem_filter.mpr ⟨List.mem_of_find?_eq_some found, chosen⟩, Prod.ext rfl own⟩

theorem HoldsAttached.any_of_sinksWhere (holds : g.HoldsAttached) (member : place ∈ g.sinksWhere p) :
    (g.sink? place).any p = true := by
  unfold sinksWhere at member
  obtain ⟨⟨r, j⟩, relay, member⟩ := List.mem_flatMap.mp member
  obtain ⟨v, chosen, rfl⟩ := List.mem_map.mp member
  obtain ⟨member, chosen⟩ := List.mem_filter.mp chosen
  have here : g.relays[j]? = some r := List.mem_zipIdx_iff_getElem?.mp relay
  obtain ⟨i, there⟩ := List.mem_iff_getElem?.mp member
  have kept := holds r (List.mem_of_getElem? here)
  have sink : r.sink? v.sink.id = some v.sink := by
    rw [(kept i v there).number, Relay.sink?, kept.viewer? i, there, Option.map_some]
  rw [sink?, here, Option.bind_some, sink]
  exact chosen

end Registry

namespace Broker

variable {b b' : Broker} {task : BrokerTask}

theorem mem_placesWhere_iff {α : Type} {p : α → Bool} {xs : List α} {i : Nat} :
    i ∈ placesWhere p xs ↔ xs[i]?.any p = true := by
  unfold placesWhere
  rw [List.mem_map]
  constructor
  · rintro ⟨⟨x, j⟩, chosen, rfl⟩
    obtain ⟨member, chosen⟩ := List.mem_filter.mp chosen
    have here : xs[j]? = some x := List.mem_zipIdx_iff_getElem?.mp member
    rw [here]
    exact chosen
  · intro chosen
    obtain ⟨x, here, chosen⟩ := (Option.any_eq_true _ _).mp chosen
    exact ⟨(x, i), List.mem_filter.mpr ⟨List.mem_zipIdx_iff_getElem?.mpr here, chosen⟩, rfl⟩

theorem mem_ready (ready : b.isReady task = true) : task ∈ b.ready := by
  cases task with
  | delivery place =>
    have member := Registry.mem_sinksWhere (p := (·.ready)) ready
    simp [Broker.ready, member]
  | closer place =>
    have member := Registry.mem_sinksWhere (p := (·.closeReady b.now)) ready
    simp [Broker.ready, member]
  | _ i =>
    have member := mem_placesWhere_iff.mpr ready
    simp [Broker.ready, member]

theorem isReady_of_mem (holds : b.registry.HoldsAttached) (member : task ∈ b.ready) :
    b.isReady task = true := by
  cases task with
  | delivery place =>
    have member : place ∈ b.registry.sinksWhere (·.ready) := by simpa [Broker.ready] using member
    exact holds.any_of_sinksWhere member
  | closer place =>
    have member : place ∈ b.registry.sinksWhere (·.closeReady b.now) := by
      simpa [Broker.ready] using member
    exact holds.any_of_sinksWhere member
  | _ i =>
    apply mem_placesWhere_iff.mp
    simpa [Broker.ready] using member

theorem event_of_machine (holds : b.registry.HoldsAttached) (step : machine.Step b b') :
    ∃ e : Event, e.uncalled = true ∧ b' = b.step e := by
  cases step with
  | turn task member =>
    have ready := isReady_of_mem holds member
    exact ⟨.run task, rfl, (if_pos ready).symm⟩
  | tick now later =>
    have later : b.now ≤ now := later
    refine ⟨.tick (now - b.now), rfl, ?_⟩
    simp only [step, Nat.add_sub_cancel' later]
    rfl

end Broker

end Fanout
