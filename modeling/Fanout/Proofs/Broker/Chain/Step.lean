import Fanout.Proofs.Broker.Chain.Pull
import Fanout.Proofs.Broker.Chain.Stop
import Fanout.Proofs.Broker.Chain.Viewer

namespace Fanout.Broker

variable {b : Broker}

theorem run_moves {task : BrokerTask} (ready : b.isReady task = true)
    (related : ∀ p ∈ b.pulls, ∃ s, b.roster? p.relay = some s) :
    Chain (Event.run task).mover b (b.run task) := by
  cases task with
  | opening i => exact runOpen_moves i ready
  | departure i => exact runDeparture_moves i ready
  | pull i => exact runPull_moves i ready related
  | watcher i => exact runWatcher_moves b i
  | stop i => exact runStop_moves i ready
  | close i => exact runClose_moves b i
  | sweeper i => exact runSweeper_moves b i
  | delivery place => exact (quiet_updateSink place Sink.run_id).chain
  | closer place => exact (quiet_updateSink place (Sink.advanceClose_id · b.now)).chain

/-- Whatever happens to a broker is a chain of moves, all of one kind. -/
theorem step_chain (e : Event) (related : ∀ p ∈ b.pulls, ∃ s, b.roster? p.relay = some s) :
    Chain e.mover b (b.step e) := by
  cases e with
  | request r => exact .single (.inr <| .ask r)
  | stop key =>
    refine Quiet.chain { Quiet.refl b with stops := fun i => ?_ }
    simp only [step, requestStop, List.getElem?_append]
    split
    · rfl
    · rename_i large
      rw [List.getElem?_eq_none_iff.mpr (Nat.le_of_not_lt large)]
      cases i - b.stops.length <;> rfl
  | close => exact Quiet.chain ⟨rfl, rfl, rfl, rfl, rfl, rfl, rfl, rfl, rfl, fun _ => rfl⟩
  | sweep => exact .single (.inr .sweep)
  | sweeper period => exact Quiet.chain ⟨rfl, rfl, rfl, rfl, rfl, rfl, rfl, rfl, rfl, fun _ => rfl⟩
  | abandon call =>
    cases call with
    | opening i => exact abandonOpen_moves b i
    | stop i => exact abandonStop_moves b i
    | close i => exact abandonClose_moves b i
    | _ => exact .refl
  | token canceled => exact .single (.inr <| .token canceled)
  | cancel token => exact .single (.inr <| .cancel token)
  | read i most =>
    simp only [step, read]
    split
    · exact (quiet_updateSink (f := fun s => { s with pipe := (s.pipe.take most).2 }) _
        fun _ => rfl).chain
    · exact .refl
  | dropReader i =>
    simp only [step, loseReader]
    split
    · exact dropReader_moves b _ _
    · exact .refl
  | command name c => exact command_moves b name c
  | turn i t => exact turn_moves b i t
  | run task =>
    simp only [step]
    split
    · rename_i ready
      exact run_moves ready related
    · exact .refl
  | tick ms => exact Quiet.chain ⟨rfl, rfl, rfl, rfl, rfl, rfl, rfl, rfl, rfl, fun _ => rfl⟩

theorem move_of_mover {e : Event} {b' : Broker} (moved : e.mover b b') : Move b b' := by
  unfold Event.mover at moved
  split at moved
  · exact .opening moved
  · exact .departure moved
  · exact .pull moved
  · exact .pull moved
  · exact .pull moved
  · exact .stop moved
  · exact .stop moved
  · exact .outer moved

theorem opening_before {e : Event} {b' : Broker} {i : Nat} {r : Request} {s : OpenState}
    (other : e ≠ .run (.opening i)) (moved : e.mover b b') (begun : s ≠ .starting)
    (kept : s ≠ .abandoned) (there : b'.openings[i]? = some ⟨r, s⟩) :
    b.openings[i]? = some ⟨r, s⟩ := by
  unfold Event.mover at moved
  split at moved
  · rename_i j
    have differs : i ≠ j := fun same => other (same ▸ rfl)
    rwa [← moved.other differs]
  · cases moved <;> exact there
  · cases moved <;> exact there
  · cases moved <;> exact there
  · cases moved <;> exact there
  · cases moved <;> exact there
  · cases moved <;> exact there
  · rcases moved.openings there with before | same | same
    · exact before
    · exact absurd same begun
    · exact absurd same kept

theorem moves_of_chain {e : Event} {b' : Broker} (chain : Chain e.mover b b') : Moves b b' := by
  refine Relation.ReflTransGen.mono (fun b b' moved => ?_) _ _ chain
  rcases moved with same | moved
  · exact .quiet same
  · exact move_of_mover moved

theorem step_moves (e : Event) (related : ∀ p ∈ b.pulls, ∃ s, b.roster? p.relay = some s) :
    Moves b (b.step e) := moves_of_chain (step_chain e related)

end Fanout.Broker
