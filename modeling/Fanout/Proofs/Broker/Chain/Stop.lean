import Fanout.Proofs.Broker.Chain.Basic

namespace Fanout.Broker

variable {b : Broker} {i guard : Nat} {s : Stop}

theorem quiet_setStop (here : b.stops[i]? = some s) {state : StopState}
    (same : state.guard? = s.state.guard?) : b.Quiet (b.setStop i state) := by
  refine { Quiet.refl b with stops := fun j => ?_ }
  by_cases there : i = j
  · subst there
    simp [setStop, here, same]
  · simp [setStop, there]

theorem enterStop_moves (here : b.stops[i]? = some s) (held : b.locks.holds guard = true) :
    Chain (·.StopMove i ·) (b.setStop i (.queued guard)) (b.enterStop i s.key guard) := by
  have queued : (b.setStop i (.queued guard)).stops[i]? =
      some { s with state := .queued guard } := by
    simp [setStop, here]
  have stops (state : StopState) :
      b.stops.modify i (fun s => { s with state := state }) =
        (b.stops.modify i fun s => { s with state := .queued guard }).modify i
          fun s => { s with state := state } := overwrite b.stops i fun _ => rfl
  unfold enterStop
  cases found : b.registry.find? s.key with
  | none =>
    simp only [Registry.remove, found]
    have ended : StopMove (b.setStop i (.queued guard)) i (((b.setStop i (.queued guard)).leave
        guard).setStop i (.ended false)) := .leave queued rfl rfl
    refine .head (.inr ended) (Quiet.chain ?_)
    exact ⟨rfl, rfl, rfl, rfl, rfl, rfl, rfl, rfl, rfl, fun i => by
      simp only [setStop, leave, ← stops]⟩
  | some relay =>
    simp only [Registry.remove, found]
    have changed := Registry.removeAndClose_changed (g := b.registry) s.key relay b.now
    have removed : (b.registry.removeIfSame s.key relay).1 = b.registry.erase s.key := by
      rw [Registry.removeIfSame, if_pos found]
    rw [removed] at changed
    have stopped (state : StopState) (out : state.guard? = none) :
        Chain (·.StopMove i ·) (b.setStop i (.queued guard)) (({ b with
          registry := ((b.registry.erase s.key).beginClose relay b.now).1 }.leave guard).setStop i
            state) := by
      refine .head (.inr <| StopMove.stop queued rfl held found changed out) (Quiet.chain ?_)
      exact ⟨rfl, rfl, rfl, rfl, rfl, rfl, rfl, rfl, rfl, fun i => by
        simp only [setStop, leave, ← stops]⟩
    split
    · exact stopped _ rfl
    · exact stopped _ rfl

theorem setStop_self (here : b.stops[i]? = some s) : b.setStop i s.state = b := by
  have same : b.stops.modify i (fun t => { t with state := s.state }) = b.stops :=
    modify_self here rfl
  simp only [setStop, same]

theorem runStop_moves (i : Nat) (ready : b.isReady (.stop i) = true) :
    Chain (·.StopMove i ·) b (b.runStop i) := by
  unfold runStop
  cases here : b.stops[i]? with
  | none => exact .refl
  | some s =>
    have ready : b.stopReady s = true := by simpa [isReady, here] using ready
    dsimp only
    cases matched : s.state with
    | starting =>
      have queued : Chain (·.StopMove i ·) b _ := .single (.inr <| .queue here matched)
      rw [enter_eq]
      dsimp only
      split
      · rename_i held
        exact queued.trans
          (enterStop_moves (b := { b with locks := (b.locks.enter s.key).1 }) here held)
      · exact queued
    | queued guard =>
      have held : b.locks.holds guard = true := by simpa [stopReady, matched] using ready
      have moves := enterStop_moves here held
      rwa [← matched, setStop_self here] at moves
    | closing sinks => exact (quiet_setStop here (by rw [matched]; rfl)).chain
    | ended found => exact .refl
    | abandoned => exact .refl

theorem abandonStop_moves (b : Broker) (i : Nat) : Chain (·.StopMove i ·) b (b.abandonStop i) := by
  cases here : b.stops[i]? with
  | none => simp only [abandonStop, here]; exact .refl
  | some s =>
    cases matched : s.state with
    | queued guard =>
      simp only [abandonStop, here, matched]
      exact .single (.inr <| .leave here matched rfl)
    | closing sinks =>
      simp only [abandonStop, here, matched]
      obtain ⟨rosters, table⟩ := Registry.abandonClose_same (g := b.registry) sinks
      exact Quiet.chain { quiet_setStop here (by rw [matched]; rfl) with
        rosters := rosters, table := table }
    | ended found =>
      simp only [abandonStop, here, matched]
      exact .refl
    | starting | abandoned =>
      simp only [abandonStop, here, matched]
      exact (quiet_setStop here (by simp only [matched, StopState.guard?])).chain

theorem quiet_setClose (b : Broker) (i : Nat) (state : CloseState) : b.Quiet (b.setClose i state) :=
  ⟨rfl, rfl, rfl, rfl, rfl, rfl, rfl, rfl, rfl, fun _ => rfl⟩

theorem drain_moves (b : Broker) (i : Nat) : Chain OuterMove b (b.drain i) := by
  unfold drain
  split
  · exact (quiet_setClose b i _).chain
  · exact (quiet_setClose b i _).chain

theorem runClose_moves (b : Broker) (i : Nat) : Chain OuterMove b (b.runClose i) := by
  unfold runClose
  split
  · split
    · exact (quiet_setClose b i _).chain
    · have down : Chain OuterMove b _ := .single (.inr .shutDown)
      dsimp only
      split
      · exact down.trans (drain_moves _ i)
      · exact down.trans (quiet_setClose _ i _).chain
  · exact drain_moves b i
  · exact (quiet_setClose b i _).chain
  · exact .refl

theorem abandonClose_moves (b : Broker) (i : Nat) : Chain OuterMove b (b.abandonClose i) := by
  unfold abandonClose
  split
  · rename_i sinks _
    obtain ⟨rosters, table⟩ := Registry.abandonClose_same (g := b.registry) sinks
    exact Quiet.chain { quiet_setClose b i .abandoned with rosters := rosters, table := table }
  · exact .refl
  · exact .refl
  · exact (quiet_setClose b i _).chain

theorem quiet_setSweeper (b : Broker) (i : Nat) (state : SweeperState) :
    b.Quiet (b.setSweeper i state) :=
  ⟨rfl, rfl, rfl, rfl, rfl, rfl, rfl, rfl, rfl, fun _ => rfl⟩

theorem runSweeper_moves (b : Broker) (i : Nat) : Chain OuterMove b (b.runSweeper i) := by
  unfold runSweeper
  split
  · exact .refl
  · split
    · split
      · exact (quiet_setSweeper b i _).chain
      · split
        · exact (quiet_setSweeper b i _).chain
        · exact (quiet_setSweeper b i _).chain
    · split
      · exact (quiet_setSweeper b i _).chain
      · exact .head (.inr .sweep) (quiet_setSweeper _ i _).chain
    · exact .refl

end Fanout.Broker
