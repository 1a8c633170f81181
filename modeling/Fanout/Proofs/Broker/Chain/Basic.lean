import Fanout.Proofs.Broker.Move
import Fanout.Proofs.Lookup

namespace Fanout.Broker

variable {b : Broker}

theorem Quiet.refl (b : Broker) : b.Quiet b :=
  ⟨rfl, rfl, rfl, rfl, rfl, rfl, rfl, rfl, rfl, fun _ => rfl⟩

theorem Quiet.chain {m : Broker → Broker → Prop} {b' : Broker} (same : b.Quiet b') :
    Chain m b b' := .single (.inl same)

theorem quiet_updateSink (place : SinkPlace) {f : Sink → Sink} (keeps : ∀ s, (f s).id = s.id) :
    b.Quiet (b.updateSink place f) :=
  { Quiet.refl b with rosters := Registry.roster?_updateSink place keeps }

theorem detach_cases (b : Broker) (place : SinkPlace) :
    (∃ g, b.detach place = ({ b with registry := g }, true) ∧
        g.table = b.registry.table ∧
        Registry.Changed place.1 (·.unseat place.2) b.registry g ∧
        ∀ s, b.roster? place.1 = some s → place.2 ∈ s.present) ∨
      (b.detach place = (b, false) ∧ ∀ s, b.roster? place.1 = some s → place.2 ∉ s.present) := by
  unfold detach
  cases detached : b.registry.relays[place.1]?.bind (·.detach place.2) with
  | some r' =>
    obtain ⟨r, relay, detached⟩ := Option.bind_eq_some_iff.mp detached
    obtain ⟨present, new⟩ := Relay.roster_detach detached
    refine .inl ⟨_, rfl, rfl, .of_relay relay new, fun s old => ?_⟩
    rw [roster?, Registry.roster?_of_relay relay, Option.some.injEq] at old
    exact old ▸ present
  | none =>
    refine .inr ⟨rfl, fun s old => ?_⟩
    obtain ⟨r, relay, rfl⟩ := Registry.relay_of_roster? old
    rw [relay] at detached
    exact Relay.detach_eq_none_iff.mp detached

theorem refuse_eq (b : Broker) (i : Nat) (key : StreamKey) (guard : Nat) (place : SinkPlace)
    (error : OpenError) :
    b.refuse i key guard place error =
      match { b with capacityRejections :=
          b.capacityRejections + if error.isTemporary then 1 else 0 }.detach place with
      | (b, true) =>
        (b.updateSink place (·.beginClose 0 b.now)).setOpening i (.disposing guard place error)
      | (b, false) => b.endRefusal i key guard place error := by
  cases error <;> rfl

theorem enter_eq (b : Broker) (key : StreamKey) :
    b.enter key = ({ b with locks := (b.locks.enter key).1 }, (b.locks.enter key).2) := rfl

end Fanout.Broker
