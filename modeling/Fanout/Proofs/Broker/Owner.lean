import Fanout.Proofs.Broker.Lifetime
import Fanout.Proofs.Registry.Owner

namespace Fanout

namespace Broker

variable {g : Registry} {b b' m : Broker} {i guard : Nat} {key : StreamKey} {place : SinkPlace} {o : Opening}
  {r : Request} {state : OpenState} {error : OpenError}

theorem attach_evolves (b : Broker) (key : StreamKey) (attempts : Nat) :
    b.registry.Evolves (b.attach key attempts).1.registry := by
  induction attempts generalizing b with
  | zero => exact .refl _
  | succ attempts ih =>
    have got := Registry.Evolves.getOrCreate b.registry key
    unfold attach
    split
    · exact .refl _
    · dsimp only
      split
      · rename_i r id first added
        obtain ⟨old, here, added⟩ := Option.bind_eq_some_iff.mp added
        have joined := Relay.Evolves.handle old
          (e := .add { capacity := max b.config.pipeCapacity 1 }) nofun
        simp only [Relay.handle, added, Option.map_some, Option.getD_some] at joined
        exact got.trans (.put here joined)
      · have removed := got.trans (Registry.Evolves.removeIfSame _ key (b.registry.getOrCreate key).2.1)
        exact removed.trans (ih { b with registry := _ })

theorem detach_or (b : Broker) (place : SinkPlace) :
    (∃ r, b.registry.relays[place.1]? = some r ∧ r.isAttached place.2 = true ∧
        b.detach place = (b.updateRelay place.1 fun _ => r.handle (.detach place.2), true)) ∨
      b.detach place = (b, false) := by
  unfold detach
  cases here : b.registry.relays[place.1]? with
  | none => exact .inr rfl
  | some r =>
    by_cases attached : r.isAttached place.2 = true
    · left
      refine ⟨r, rfl, attached, ?_⟩
      simp [Relay.handle, Relay.detach, attached]
    · right
      simp [Relay.detach, attached]

theorem retireIfEmpty_evolves (b : Broker) (key : StreamKey) (j : Nat) :
    b.registry.Evolves (b.retireIfEmpty key j).registry := by
  have retired := Registry.Evolves.retireEntry b.registry j
  unfold retireIfEmpty
  dsimp only
  split
  · exact retired.trans (.removeIfSame _ key j)
  · exact retired

theorem dropPipe_evolves (b : Broker) (place : SinkPlace) :
    b.registry.Evolves (b.dropPipe place).registry := by
  apply Registry.Evolves.updateSink
  · intro s
    exact ⟨[.act .dropReader], rfl⟩
  · intro s held
    exact held

/-- A step of the open at `i` lets the sinks go on, and if the open is then being refused, the sink
that it waits for is cut. -/
structure Conducts (i : Nat) (g : Registry) (b' : Broker) : Prop where
  evolves : g.Evolves b'.registry
  cut : ∀ r guard place error, b'.openings[i]? = some ⟨r, .disposing guard place error⟩ →
    b'.registry.Cut place

theorem state_of_setOpening (new : (m.setOpening i state).openings[i]? = some o) :
    o.state = state := by
  simp only [setOpening, List.getElem?_modify_eq, Option.map_eq_map, Option.map_eq_some_iff] at new
  obtain ⟨_, -, rfl⟩ := new
  rfl

namespace Conducts

theorem settle (evolves : g.Evolves m.registry)
    (other : ∀ guard place error, state ≠ .disposing guard place error) :
    Conducts i g (m.setOpening i state) where
  evolves := evolves
  cut _ guard place error new := absurd (state_of_setOpening new).symm (other guard place error)

theorem after (evolves : g.Evolves m.registry) (h : Conducts i m.registry b') : Conducts i g b' :=
  ⟨evolves.trans h.evolves, h.cut⟩

theorem still (h : ∀ r guard place error, b.openings[i]? ≠ some ⟨r, .disposing guard place error⟩) :
    Conducts i b.registry b :=
  ⟨.refl _, fun r guard place error here => absurd here (h r guard place error)⟩

end Conducts

theorem endRefusal_conducts (b : Broker) (i : Nat) (key : StreamKey) (guard : Nat)
    (place : SinkPlace) (error : OpenError) :
    Conducts i b.registry (b.endRefusal i key guard place error) := by
  unfold endRefusal
  apply Conducts.settle
  · exact (retireIfEmpty_evolves b key place.1).trans (dropPipe_evolves _ place)
  · exact nofun

theorem refuse_conducts (holds : b.registry.HoldsAttached) (i : Nat) (key : StreamKey) (guard : Nat)
    (place : SinkPlace) (error : OpenError) :
    Conducts i b.registry (b.refuse i key guard place error) := by
  rw [refuse_eq]
  generalize b.capacityRejections + _ = n
  rcases detach_or { b with capacityRejections := n } place with
    ⟨r, here, attached, detached⟩ | detached
  · rw [detached]
    have closed := Registry.cut_of_detach b.now holds here attached
    have evolves : b.registry.Evolves ((b.registry.updateRelay place.1
        fun _ => r.handle (.detach place.2)).updateSink place (·.beginClose 0 b.now)) := by
      apply (Registry.Evolves.detach place.2 here).trans
      apply Registry.Evolves.release
      · intro s
        exact ⟨[.act (.beginClose 0 b.now)], rfl⟩
      · exact Registry.gone_of_detach place.2 here
    refine ⟨evolves, ?_⟩
    intro r guard' place' error' new
    cases state_of_setOpening new
    exact closed
  · rw [detached]
    exact endRefusal_conducts { b with capacityRejections := n } i key guard place error

theorem acquire_conducts (holds : b.registry.HoldsAttached) (i : Nat) (r : Request) (guard : Nat)
    (place : SinkPlace) (a : Acquisition) :
    Conducts i b.registry (b.acquire i r guard place a) := by
  unfold acquire
  split
  · exact .settle (.refl _) nofun
  · exact .settle (.refl _) nofun
  · rename_i limits _ _
    exact refuse_conducts (b := { b with limits := limits }) holds i r.key guard place _

theorem enterOpen_conducts (holds : b.registry.HoldsAttached) (i : Nat) (r : Request) (guard : Nat) :
    Conducts i b.registry (b.enterOpen i r guard) := by
  have seated := attach_evolves b r.key (b.registry.relays.length + 2)
  unfold enterOpen
  split
  · rename_i m place attached
    rw [attached] at seated
    exact .after seated (acquire_conducts (seated.holdsAttached holds) i r guard place _)
  · rename_i m place attached
    rw [attached] at seated
    exact .settle seated nofun
  · rename_i m _ _ _ attached
    rw [attached] at seated
    exact .settle seated nofun

theorem startOpen_conducts (holds : b.registry.HoldsAttached) (i : Nat) (r : Request) :
    Conducts i b.registry (b.startOpen i r) := by
  unfold startOpen
  split
  · exact .settle (.refl _) nofun
  · split
    · exact .settle (.refl _) nofun
    · dsimp only
      split
      · exact enterOpen_conducts (b := ({ b with opens := b.opens + 1 }.enter r.key).1) holds i r _
      · exact .settle (.refl _) nofun

theorem runOpen_conducts (holds : b.registry.HoldsAttached) (i : Nat) :
    Conducts i b.registry (b.runOpen i) := by
  unfold runOpen
  cases here : b.openings[i]? with
  | none => exact .still fun _ _ _ _ => by rw [here]; nofun
  | some o =>
    dsimp only
    cases matched : o.state with
    | starting => exact startOpen_conducts holds i o.request
    | queued guard => exact enterOpen_conducts holds i o.request guard
    | acquiring guard place a =>
      dsimp only
      split
      · exact refuse_conducts (b := { b with limits := a.abandon b.limits }) holds i o.request.key
          guard place .closed
      · exact acquire_conducts holds i o.request guard place a
    | disposing guard place error => exact endRefusal_conducts b i o.request.key guard place error
    | refused | opened | abandoned =>
      apply Conducts.still
      intro r guard place error there
      cases here.symm.trans there
      cases matched

theorem abandonOpen_evolves (b : Broker) (i : Nat) : b.registry.Evolves (b.abandonOpen i).registry := by
  cases here : b.openings[i]? with
  | none =>
    simp only [abandonOpen, here]
    exact .refl _
  | some o =>
    cases matched : o.state with
    | acquiring guard place a =>
      simp only [abandonOpen, here, matched]
      rcases detach_or { b with limits := a.abandon b.limits } place with
        ⟨r, relay, -, detached⟩ | detached
      · rw [detached]
        have off := Registry.Evolves.detach place.2 relay
        have dropped := off.trans (.release (f := Sink.drop) (fun s => ⟨[.act .drop], rfl⟩)
          (Registry.gone_of_detach place.2 relay))
        have retired := dropped.trans (.retireEntry _ place.1)
        exact retired.trans (dropPipe_evolves { b with registry := _ } place)
      · rw [detached]
        have retired := Registry.Evolves.retireEntry b.registry place.1
        exact retired.trans (dropPipe_evolves { b with registry := _ } place)
    | disposing guard place error =>
      simp only [abandonOpen, here, matched]
      have given := Registry.Evolves.abandonClose b.registry [place]
      exact given.trans (dropPipe_evolves { b with registry := _ } place)
    | opened place k =>
      simp only [abandonOpen, here, matched]
      exact dropPipe_evolves b place
    | _ =>
      simp only [abandonOpen, here, matched]
      exact .refl _

theorem enterDeparture_evolves (h : g.Evolves m.registry) (i : Nat) (d : Departure) (guard : Nat) :
    g.Evolves (m.enterDeparture i d guard).registry := by
  apply h.trans
  unfold enterDeparture
  rcases detach_or m d.place with ⟨r, here, -, detached⟩ | detached
  · rw [detached]
    have off := Registry.Evolves.detach d.place.2 here
    have retired := off.trans (retireIfEmpty_evolves (m.updateRelay d.place.1
      fun _ => r.handle (.detach d.place.2)) d.key d.place.1)
    -- the viewer is still gone once the relay is retired
    have gone := Registry.gone_of_detach d.place.2 here
    have changed := Registry.retireAndRemove_changed (g := m.registry.updateRelay d.place.1
      fun _ => r.handle (.detach d.place.2)) d.key d.place.1
    have still := changed.gone fun s old present =>
      gone s old ((Roster.Shrinks.retireIfEmpty s).left _ present)
    exact retired.trans (.release (f := (·.beginClose 0 m.now))
      (fun s => ⟨[.act (.beginClose 0 m.now)], rfl⟩) still)
  · rw [detached]
    exact retireIfEmpty_evolves m d.key d.place.1

theorem runDeparture_evolves (b : Broker) (i : Nat) :
    b.registry.Evolves (b.runDeparture i).registry := by
  unfold runDeparture
  split
  · exact .refl _
  · split
    · dsimp only
      split
      · apply enterDeparture_evolves
        exact .refl _
      · exact .refl _
    · exact enterDeparture_evolves (.refl _) i _ _
    · exact .refl _
    · exact .refl _

theorem enterLeaving_evolves (h : g.Evolves m.registry) (i : Nat) (p : Pull) (guard : Nat)
    (ending : Ending) (canceled : Bool) :
    g.Evolves (m.enterLeaving i p guard ending canceled).registry := by
  have closed := (h.trans (.removeIfSame m.registry p.key p.relay)).trans
    (.beginClose _ p.relay m.now)
  unfold enterLeaving
  dsimp only
  split
  · exact closed
  · exact closed

theorem endFeed_evolves (h : g.Evolves m.registry) (i : Nat) (p : Pull) (ending : Ending) :
    g.Evolves (m.endFeed i p ending).registry := by
  have retired : g.Evolves
      (m.registry.updateRelay p.relay fun r => r.retire.withdraw p.listener) := by
    apply h.trans
    apply Registry.Evolves.updateRelay
    intro r _
    have closed : r.Evolves r.retire := .handle r (e := .retire) nofun
    exact closed.trans (.handle r.retire (e := .withdraw p.listener) nofun)
  unfold endFeed
  dsimp only
  split
  · apply enterLeaving_evolves
    exact retired
  · exact retired

theorem takeTurn_evolves (h : g.Evolves m.registry) (i : Nat) (p : Pull) (turn : Turn) :
    g.Evolves (m.takeTurn i p turn).registry := by
  have wrote : g.Evolves
      (m.registry.updateRelay p.relay fun r => (r.writeAll turn.writes).1) := by
    apply h.trans
    apply Registry.Evolves.updateRelay
    intro r _
    exact .writeAll r turn.writes
  unfold takeTurn
  dsimp only
  split
  · exact wrote
  · apply endFeed_evolves
    exact wrote

theorem enterPull_evolves (h : g.Evolves m.registry) (i : Nat) (p : Pull) (guard : Nat) :
    g.Evolves (m.enterPull i p guard).registry := by
  unfold enterPull
  split
  · exact h
  · rename_i r here
    apply takeTurn_evolves
    apply h.trans
    exact .put here (.handle r (e := .subscribe) nofun)

theorem runPull_evolves (b : Broker) (i : Nat) : b.registry.Evolves (b.runPull i).registry := by
  unfold runPull
  split
  · exact .refl _
  · split
    · dsimp only
      split
      · apply enterPull_evolves
        exact .refl _
      · exact .refl _
    · exact enterPull_evolves (.refl _) i _ _
    · exact takeTurn_evolves (.refl _) i _ _
    · exact enterLeaving_evolves (.refl _) i _ _ _ _
    · exact .refl _
    · exact .refl _

theorem enterStop_evolves (h : g.Evolves m.registry) (i : Nat) (key : StreamKey) (guard : Nat) :
    g.Evolves (m.enterStop i key guard).registry := by
  have removed := h.trans (.remove m.registry key)
  unfold enterStop
  dsimp only
  split
  · exact removed
  · rename_i relay _
    have closed := removed.trans (.beginClose _ relay m.now)
    split
    · exact closed
    · exact closed

theorem runStop_evolves (b : Broker) (i : Nat) : b.registry.Evolves (b.runStop i).registry := by
  unfold runStop
  split
  · exact .refl _
  · split
    · dsimp only
      split
      · apply enterStop_evolves
        exact .refl _
      · exact .refl _
    · exact enterStop_evolves (.refl _) i _ _
    · exact .refl _
    · exact .refl _

theorem drain_evolves (h : g.Evolves m.registry) (i : Nat) : g.Evolves (m.drain i).registry := by
  unfold drain
  split
  · exact h
  · exact h

theorem runClose_evolves (b : Broker) (i : Nat) : b.registry.Evolves (b.runClose i).registry := by
  unfold runClose
  split
  · split
    · exact .refl _
    · have stopped := Registry.Evolves.stopAll b.registry b.now
      dsimp only
      split
      · apply drain_evolves
        exact stopped
      · exact stopped
  · exact drain_evolves (.refl _) i
  · exact .refl _
  · exact .refl _

theorem runSweeper_evolves (b : Broker) (i : Nat) : b.registry.Evolves (b.runSweeper i).registry := by
  unfold runSweeper
  repeat' split
  all_goals first | exact .refl _ | exact .evictEmpty b.registry

theorem run_evolves (holds : b.registry.HoldsAttached) (task : BrokerTask) :
    b.registry.Evolves (b.run task).registry := by
  cases task with
  | opening i => exact (runOpen_conducts holds i).evolves
  | departure i => exact runDeparture_evolves b i
  | pull i => exact runPull_evolves b i
  | watcher i =>
    simp only [run, runWatcher]
    repeat' split
    all_goals exact .refl _
  | stop i => exact runStop_evolves b i
  | close i => exact runClose_evolves b i
  | sweeper i => exact runSweeper_evolves b i
  | delivery place =>
    apply Registry.Evolves.updateSink
    · intro s
      obtain ⟨events, same, -⟩ := Sink.runFor_events (3 * s.queue.length + 8) s
      exact ⟨events, same⟩
    · intro s held
      obtain ⟨-, -, owner⟩ := Sink.runFor_events (3 * s.queue.length + 8) s
      exact owner.trans held
  | closer place =>
    apply Registry.Evolves.updateSink
    · intro s
      exact ⟨[.act (.advanceClose b.now)], rfl⟩
    · intro s held
      simp [Sink.advanceClose, held]

theorem abandon_evolves (b : Broker) (call : BrokerTask) :
    b.registry.Evolves (b.abandon call).registry := by
  cases call with
  | opening i => exact abandonOpen_evolves b i
  | stop i =>
    simp only [abandon, abandonStop]
    repeat' split
    all_goals first | exact .refl _ | exact .abandonClose _ _
  | close i =>
    simp only [abandon, abandonClose]
    repeat' split
    all_goals first | exact .refl _ | exact .abandonClose _ _
  | _ => exact .refl _

/-- Whatever happens to a broker, its relays and their sinks go on. -/
theorem step_evolves (holds : b.registry.HoldsAttached) (e : Event) :
    b.registry.Evolves (b.step e).registry := by
  cases e with
  | request | stop | close | sweeper | token | cancel | tick => exact .refl _
  | sweep => exact .evictEmpty b.registry
  | abandon call => exact abandon_evolves b call
  | read i most =>
    simp only [step, read]
    split
    · exact .updateSink (fun s => ⟨[.act (.read most)], rfl⟩) fun s held => held
    · exact .refl _
  | dropReader i =>
    simp only [step, loseReader]
    split
    · exact dropPipe_evolves b _
    · exact .refl _
  | command name c =>
    simp only [step, command]
    split
    · exact .refl _
    · exact .refl _
  | turn i t =>
    simp only [step, turn]
    repeat' split
    all_goals first | exact .refl _ | exact takeTurn_evolves (.refl _) i _ t
  | run task =>
    simp only [step]
    split
    · exact run_evolves holds task
    · exact .refl _

/-- The relays answer for the sinks of those who are attached, and an open that is being refused
waits for a sink that is cut. -/
structure Minded (b : Broker) : Prop where
  holdsAttached : b.registry.HoldsAttached
  disposing : ∀ (i : Nat) r guard place error,
    b.openings[i]? = some ⟨r, .disposing guard place error⟩ → b.registry.Cut place

namespace Minded

theorem initial (config : BrokerConfig) (limits : Limits) : (Broker.new config limits).Minded where
  holdsAttached r member := absurd member List.not_mem_nil
  disposing i r guard place error here := by simp [new] at here

theorem step (h : b.Minded) (sound : b.Sound) (e : Event) : (b.step e).Minded where
  holdsAttached := (step_evolves h.holdsAttached e).holdsAttached h.holdsAttached
  disposing i r guard place error there := by
    have evolves := step_evolves h.holdsAttached e
    have kept (here : b.openings[i]? = some ⟨r, .disposing guard place error⟩) :
        (b.step e).registry.Cut place :=
      evolves.cut h.holdsAttached (h.disposing i r guard place error here)
    cases own : e.isOf i with
    | true =>
      rcases Event.isOf_iff.mp own with rfl | rfl
      · simp only [Broker.step] at there kept ⊢
        split at there
        · rename_i ready
          rw [if_pos ready]
          exact (runOpen_conducts h.holdsAttached i).cut r guard place error there
        · exact kept there
      · cases here : b.openings[i]? with
        | none =>
          simp only [Broker.step, abandon, abandonOpen, here] at there
          cases there
        | some o =>
          have given := getElem?_abandonOpen here
          cases given.symm.trans there
    | false =>
      rcases sound.openings_foreign own with same | ⟨-, asked, new⟩
      · exact kept (same.symm.trans there)
      · cases new.symm.trans there

theorem after (h : b.Minded) (sound : b.Sound) (events : List Event) : (b.after events).Minded := by
  induction events generalizing b with
  | nil => exact h
  | cons e rest ih => exact ih (h.step sound e) (sound.step e)

end Minded

end Broker

end Fanout
