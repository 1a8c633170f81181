import Fanout.Proofs.Broker.Chain.Basic

namespace Fanout.Broker

variable {b : Broker} {i guard : Nat} {p q : Pull}

theorem overwrite_pull (pulls : List Pull) (i : Nat) (s t : PullState) :
    (pulls.modify i fun p => { p with state := t }) =
      (pulls.modify i fun p => { p with state := s }).modify i fun p => { p with state := t } :=
  overwrite pulls i fun _ => rfl

theorem quiet_updatePull (here : b.pulls[i]? = some p) {f : Pull → Pull}
    (same : (f p).outline = p.outline) : b.Quiet (b.updatePull i f) := by
  refine { Quiet.refl b with pulls := ?_ }
  refine List.ext_getElem? fun j => ?_
  by_cases there : i = j
  · subst there
    simp [updatePull, here, same]
  · simp [updatePull, there]

theorem finishPull_moves (here : b.pulls[i]? = some p) {sinks : List SinkPlace} {ending : Ending}
    {canceled : Bool} (closing : p.state = .closing sinks ending canceled) (q : Pull) :
    Chain (·.PullMove i ·) b (b.finishPull i q ending canceled) := by
  refine .head (.inr <| PullMove.finish (outcome ending canceled).1 here closing) (Quiet.chain ?_)
  exact ⟨rfl, rfl, rfl, rfl, rfl, rfl, rfl, rfl, rfl, fun _ => rfl⟩

theorem enterLeaving_moves (here : b.pulls[i]? = some p) {ending : Ending} {canceled : Bool}
    (relay : q.relay = p.relay) (held : b.locks.holds guard = true) :
    Chain (·.PullMove i ·) (b.setPull i (.leaving guard ending canceled))
      (b.enterLeaving i q guard ending canceled) := by
  have leaving : (b.setPull i (.leaving guard ending canceled)).pulls[i]? =
      some { p with state := .leaving guard ending canceled } := by
    simp [setPull, updatePull, here]
  have changed : Registry.Changed p.relay Roster.shut b.registry
      ((b.registry.removeIfSame q.key q.relay).1.beginClose q.relay b.now).1 :=
    relay ▸ Registry.removeAndClose_changed q.key q.relay b.now
  have closed (sinks : List SinkPlace) := PullMove.close sinks leaving rfl held changed
  unfold enterLeaving
  dsimp only
  split
  · have closing : (((({ b.setPull i (.leaving guard ending canceled) with
        registry := ((b.registry.removeIfSame q.key q.relay).1.beginClose q.relay b.now).1 } :
          Broker).leave guard).setPull i (.closing [] ending canceled)).pulls[i]?) =
        some { p with state := .closing [] ending canceled } := by
      simp [setPull, updatePull, leave, here]
    refine .head (.inr <| closed []) (.head
      (.inr <| PullMove.finish (outcome ending canceled).1 closing rfl) (Quiet.chain ?_))
    exact ⟨rfl, rfl, rfl, rfl, rfl, rfl, rfl, rfl, congrArg (List.map _)
      ((overwrite_pull b.pulls i (.leaving guard ending canceled) _).trans
        (overwrite_pull _ i (.closing [] ending canceled) _)), fun _ => rfl⟩
  · refine .head (.inr <| closed
      ((b.registry.removeIfSame q.key q.relay).1.beginClose q.relay b.now).2) (Quiet.chain ?_)
    exact ⟨rfl, rfl, rfl, rfl, rfl, rfl, rfl, rfl,
      congrArg (List.map _) (overwrite b.pulls i fun _ => rfl), fun _ => rfl⟩

theorem endFeed_moves (here : b.pulls[i]? = some p) (running : p.state = .running)
    (ending : Ending) : Chain (·.PullMove i ·) b (b.endFeed i p ending) := by
  have changed : Registry.Changed p.relay (fun s => s.retire.withdraw p.listener) b.registry
      (b.registry.updateRelay p.relay fun r => r.retire.withdraw p.listener) := by
    cases relay : b.registry.relays[p.relay]? with
    | none =>
      rw [Registry.updateRelay_of_none relay]
      exact .of_missing (by simp [Registry.roster?, relay])
    | some r =>
      refine .of_update (Registry.roster?_of_relay relay) ?_ rfl
      rw [Registry.roster?_updateRelay relay, Relay.roster_withdraw, Relay.roster_retire]
  have ended := PullMove.endFeed ending (b.scopeCanceled p) here running changed
  have pulls (guard : Nat) :
      (b.pulls.modify i fun _ => { p with held := [], watcher := .ended }).modify i
          (fun q => { q with state := .leaving guard ending (b.scopeCanceled p) }) =
        b.pulls.modify i fun q => { q with
          held := []
          watcher := .ended
          state := .leaving guard ending (b.scopeCanceled p) } := by
    rw [List.modify_modify_eq]
    exact modify_congr here rfl
  unfold endFeed
  dsimp only
  rw [enter_eq]
  dsimp only
  split
  · rename_i held
    refine .trans (.head (.inr ended) (Quiet.chain ?_)) (enterLeaving_moves
      (p := { p with held := [], watcher := .ended })
      (b := { b.updateRelay p.relay (fun r => r.retire.withdraw p.listener) with
        limits := Limits.releaseAll b.limits p.held
        locks := (b.locks.enter p.key).1
        pulls := b.pulls.modify i fun _ => { p with held := [], watcher := .ended } })
      (by simp [here]) rfl held)
    exact ⟨rfl, rfl, rfl, rfl, rfl, rfl, rfl, rfl,
      congrArg (List.map _) (pulls (b.locks.enter p.key).2), fun _ => rfl⟩
  · refine .head (.inr ended) (Quiet.chain ?_)
    exact ⟨rfl, rfl, rfl, rfl, rfl, rfl, rfl, rfl,
      congrArg (List.map _) (pulls (b.locks.enter p.key).2), fun _ => rfl⟩

theorem takeTurn_moves (here : b.pulls[i]? = some p) (running : p.state = .running)
    (same : q.outline = p.outline) (turn : Turn) :
    Chain (·.PullMove i ·) b (b.takeTurn i q turn) := by
  have wrote : b.Quiet ((b.updateRelay q.relay fun r => (r.writeAll turn.writes).1).updatePull i
      fun _ => { q with written := q.written + (turn.writes.map List.length).sum }) :=
    { quiet_updatePull here same with
      rosters := Registry.roster?_updateRelay_same fun _ => Relay.roster_writeAll _ }
  have running' : q.state = .running := by
    have states : q.outline.state = p.outline.state := congrArg (·.state) same
    exact states.trans running
  have here' : ((b.updateRelay q.relay fun r => (r.writeAll turn.writes).1).updatePull i
      fun _ => { q with written := q.written + (turn.writes.map List.length).sum }).pulls[i]? =
        some { q with written := q.written + (turn.writes.map List.length).sum } := by
    simp [updatePull, updateRelay, here]
  unfold takeTurn
  cases turn.ending with
  | none => exact wrote.chain
  | some ending => exact wrote.chain.trans (endFeed_moves here' running' ending)

theorem takeTurn_updatePull (b : Broker) (i : Nat) (f : Pull → Pull) (p : Pull) (turn : Turn) :
    (b.updatePull i f).takeTurn i p turn = b.takeTurn i p turn := by
  have pulls (q : Pull) := overwrite (f := f) (g := fun _ => q) b.pulls i fun _ => rfl
  simp only [takeTurn, updatePull, updateRelay, ← pulls]

theorem runFeed_updatePull (b : Broker) (i : Nat) (f : Pull → Pull) (p : Pull) :
    (b.updatePull i f).runFeed i p = b.runFeed i p :=
  takeTurn_updatePull b i f _ _

theorem runFeed_moves (here : b.pulls[i]? = some p) (running : p.state = .running) :
    Chain (·.PullMove i ·) b (b.runFeed i p) :=
  takeTurn_moves (q := { p with feed := (p.feed.resume (b.scopeCanceled p) b.now).1 }) here running
    rfl (p.feed.resume (b.scopeCanceled p) b.now).2

theorem enterPull_moves {s : Roster} (here : b.pulls[i]? = some p)
    (old : b.roster? p.relay = some s) (held : b.locks.holds guard = true) :
    Chain (·.PullMove i ·) (b.setPull i (.queued guard)) (b.enterPull i p guard) := by
  obtain ⟨r, relay, rfl⟩ := Registry.relay_of_roster? old
  obtain ⟨roster, number⟩ := Relay.roster_subscribe (r := r)
  have queued : (b.setPull i (.queued guard)).pulls[i]? =
      some { p with state := .queued guard } := by
    simp [setPull, updatePull, here]
  have subscribed := PullMove.subscribe queued rfl held old (.of_relay relay roster)
  have pulls : b.pulls.modify i (fun _ => { p with
        listener := r.subscribe.2, watcher := .waiting, state := .running }) =
      (b.pulls.modify i fun q => { q with state := .queued guard }).modify i fun q => { q with
        listener := r.roster.signals.length + 1, watcher := .waiting, state := .running } := by
    rw [List.modify_modify_eq, number]
    exact modify_congr here rfl
  unfold enterPull
  rw [relay]
  dsimp only
  rw [← runFeed_updatePull _ i fun _ => { p with
    listener := r.subscribe.2, watcher := .waiting, state := .running }]
  refine .head (.inr subscribed) (.trans (Quiet.chain ?_) (runFeed_moves ?_ rfl))
  · exact ⟨rfl, rfl, rfl, rfl, rfl, rfl, rfl, rfl, congrArg (List.map _) pulls, fun _ => rfl⟩
  · simp [updatePull, updateRelay, leave, here]

theorem setPull_self (here : b.pulls[i]? = some p) : b.setPull i p.state = b := by
  have same : b.pulls.modify i (fun q => { q with state := p.state }) = b.pulls :=
    modify_self here rfl
  simp only [setPull, updatePull, same]

theorem runPull_moves (i : Nat) (ready : b.isReady (.pull i) = true)
    (related : ∀ p ∈ b.pulls, ∃ s, b.roster? p.relay = some s) :
    Chain (·.PullMove i ·) b (b.runPull i) := by
  unfold runPull
  cases here : b.pulls[i]? with
  | none => exact .refl
  | some p =>
    have ready : b.pullReady p = true := by simpa [isReady, here] using ready
    obtain ⟨s, old⟩ := related p (List.mem_of_getElem? here)
    dsimp only
    cases matched : p.state with
    | starting =>
      have queued : Chain (·.PullMove i ·) b _ := .single (.inr <| .queue here matched)
      rw [enter_eq]
      dsimp only
      split
      · rename_i held
        exact queued.trans
          (enterPull_moves (b := { b with locks := (b.locks.enter p.key).1 }) here old held)
      · exact queued
    | queued guard =>
      have held : b.locks.holds guard = true := by simpa [pullReady, matched] using ready
      have moves := enterPull_moves here old held
      rwa [← matched, setPull_self here] at moves
    | running => exact runFeed_moves here matched
    | leaving guard ending canceled =>
      have held : b.locks.holds guard = true := by simpa [pullReady, matched] using ready
      have moves : Chain (·.PullMove i ·) (b.setPull i (.leaving guard ending canceled)) _ :=
        enterLeaving_moves (q := p) here rfl held
      rwa [← matched, setPull_self here] at moves
    | closing sinks ending canceled => exact finishPull_moves here matched p
    | ended outcome => exact .refl

theorem runWatcher_moves (b : Broker) (i : Nat) : Chain (·.PullMove i ·) b (b.runWatcher i) := by
  unfold runWatcher
  cases here : b.pulls[i]? with
  | none => exact .refl
  | some p =>
    dsimp only
    split
    · rename_i ready
      exact .single (.inr <| .notice here ready)
    · exact .refl

theorem turn_moves (b : Broker) (i : Nat) (t : Turn) : Chain (·.PullMove i ·) b (b.turn i t) := by
  unfold turn
  cases here : b.pulls[i]? with
  | none => exact .refl
  | some p =>
    dsimp only
    split
    · rename_i running
      exact takeTurn_moves here running rfl t
    · exact .refl

theorem command_moves (b : Broker) (name : String) (c : ScriptCommand) :
    Chain OuterMove b (b.command name c).1 := by
  unfold command
  dsimp only
  split
  · exact .refl
  · rename_i i _
    cases here : b.pulls[i]? with
    | none =>
      have same (f : Pull → Pull) : b.pulls.modify i f = b.pulls :=
        List.modify_eq_self (List.getElem?_eq_none_iff.mp here)
      simp only [updatePull, same]
      exact .refl
    | some p =>
      refine (quiet_updatePull here ?_).chain
      split <;> rfl

end Fanout.Broker
