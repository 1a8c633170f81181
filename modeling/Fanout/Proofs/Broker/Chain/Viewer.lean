import Fanout.Proofs.Broker.Chain.Basic

namespace Fanout.Broker

variable {b : Broker} {i guard : Nat} {place : SinkPlace} {o : Opening} {d : Departure}
  {a : Acquisition}

theorem attach_of_shutdown (down : b.shutdown = true) (key : StreamKey) (n : Nat) :
    b.attach key (n + 1) = (b, .shutDown) := by
  simp [attach, down]

theorem made_updateRelay {g : Registry} {key : StreamKey} (vacant : g.find? key = none)
    (r : Relay) :
    (g.getOrCreate key).1.updateRelay g.relays.length (fun _ => r) =
      { g with
        relays := g.relays ++ [r]
        table := g.table ++ [(key, g.relays.length)] } := by
  have swap : (g.relays ++ [Relay.new key g.config]).modify g.relays.length (fun _ => r) =
      g.relays ++ [r] := by
    rw [List.modify_eq_take_cons_drop (by simp)]
    simp
  simp only [Registry.getOrCreate, vacant, Registry.updateRelay, swap]

theorem attach_vacant (up : b.shutdown = false) {key : StreamKey}
    (vacant : b.registry.find? key = none) (n : Nat) :
    ∃ r' id first,
      (Relay.new key b.registry.config).add { capacity := max b.config.pipeCapacity 1 } =
        some (r', id, first) ∧
      b.attach key (n + 1) =
        ({ b with
          registry := { b.registry with
            relays := b.registry.relays ++ [r']
            table := b.registry.table ++ [(key, b.registry.relays.length)] } },
          .as (b.registry.relays.length, id) first) := by
  cases added : (Relay.new key b.registry.config).add
      { capacity := max b.config.pipeCapacity 1 } with
  | none => cases Relay.add_eq_none_iff.mp added
  | some answer =>
    obtain ⟨r', id, first⟩ := answer
    refine ⟨r', id, first, rfl, ?_⟩
    rw [← made_updateRelay vacant]
    simp [attach, up, Registry.getOrCreate, vacant, added]

theorem attach_seated (up : b.shutdown = false) (key : StreamKey) (n : Nat) :
    ∃ g place first, b.attach key (n + 2) = ({ b with registry := g }, .as place first) ∧
      b.registry.Seated key { capacity := max b.config.pipeCapacity 1 } g place first := by
  cases entry : b.registry.find? key with
  | none =>
    obtain ⟨r', id, first, added, eq⟩ := attach_vacant up entry (n + 1)
    have seated := Registry.Seated.made (g := b.registry)
      (fun j r found _ => by rw [entry] at found; cases found) added
    rw [Registry.erase_of_find?_none entry] at seated
    exact ⟨_, _, first, eq, seated⟩
  | some j =>
    cases added : b.registry.relays[j]?.bind
        (·.add { capacity := max b.config.pipeCapacity 1 }) with
    | some answer =>
      obtain ⟨r', id, first⟩ := answer
      obtain ⟨r, relay, added⟩ := Option.bind_eq_some_iff.mp added
      refine ⟨_, (j, id), first, ?_, .found entry relay added⟩
      simp [attach, up, Registry.getOrCreate, entry, relay, added]
    | none =>
      have refused : ∀ j' r, b.registry.find? key = some j' → b.registry.relays[j']? = some r →
          r.closed = true := by
        intro j' r found relay
        rw [entry, Option.some.injEq] at found
        subst found
        rw [relay] at added
        exact Relay.add_eq_none_iff.mp added
      have again : b.attach key (n + 2) =
          { b with registry := b.registry.erase key }.attach key (n + 1) := by
        rw [attach]
        simp [up, Registry.getOrCreate, entry, added, Registry.removeIfSame]
      have vacant : (b.registry.erase key).find? key = none := by
        simp [Registry.find?, Registry.erase]
      obtain ⟨r', id, first, added, eq⟩ :=
        attach_vacant (b := { b with registry := b.registry.erase key }) up vacant n
      exact ⟨_, _, first, again.trans eq, .made refused added⟩

theorem setOpening_self {o : Opening} {state : OpenState} (here : b.openings[i]? = some o)
    (matched : o.state = state) : b.setOpening i state = b := by
  have same : b.openings.modify i (fun p => { p with state := state }) = b.openings :=
    modify_self here (by rw [← matched])
  simp only [setOpening, same]

theorem endRefusal_moves {error : OpenError} (here : b.openings[i]? = some o) :
    Chain (·.OpenMove i ·) (b.setOpening i (.disposing guard place error))
      (b.endRefusal i o.request.key guard place error) := by
  have changed := (Registry.retireAndRemove_changed (g := b.registry) o.request.key
    place.1).updateSink place Sink.dropReader_id
  refine .head (.inr <| .dispose (getElem?_setOpening here (.disposing guard place error)) changed)
    (Quiet.chain ?_)
  exact ⟨rfl, rfl, rfl, rfl, rfl, rfl, overwrite _ i (fun _ => rfl), rfl, rfl, fun _ => rfl⟩

theorem refuse_moves {limits : Limits} {error : OpenError} (here : b.openings[i]? = some o)
    (denied : b.Denied a limits error) :
    Chain (·.OpenMove i ·) (b.setOpening i (.acquiring guard place a))
      ({ b with limits := limits }.refuse i o.request.key guard place error) := by
  have waiting := getElem?_setOpening here (.acquiring guard place a)
  have denied : (b.setOpening i (.acquiring guard place a)).Denied a limits error := by
    cases denied with
    | closed down given => exact .closed down given
    | capacity up poll => exact .capacity up poll
  rw [refuse_eq]
  dsimp only
  generalize b.capacityRejections + _ = n
  rcases detach_cases { b with limits := limits, capacityRejections := n } place with
    ⟨g, detached, -, changed, -⟩ | ⟨detached, gone⟩
  · rw [detached]
    have begun := changed.updateSink place (Sink.beginClose_id · 0 b.now)
    refine .head (.inr <| OpenMove.deny waiting denied begun) (Quiet.chain ?_)
    exact ⟨rfl, rfl, rfl, rfl, rfl, rfl, overwrite _ i (fun _ => rfl), rfl, rfl,
      fun _ => rfl⟩
  · rw [detached]
    have retired := (Registry.retireAndRemove_changed (g := b.registry) o.request.key
      place.1).updateSink place Sink.dropReader_id
    refine .head (.inr <| OpenMove.denyGone waiting denied gone retired) (Quiet.chain ?_)
    exact ⟨rfl, rfl, rfl, rfl, rfl, rfl, overwrite _ i (fun _ => rfl), rfl, rfl,
      fun _ => rfl⟩

theorem acquire_moves (here : b.openings[i]? = some o) (up : b.shutdown = false) :
    Chain (·.OpenMove i ·) (b.setOpening i (.acquiring guard place a))
      (b.acquire i o.request guard place a) := by
  have waiting := getElem?_setOpening here (.acquiring guard place a)
  unfold acquire
  rcases poll : a.poll b.limits b.now with ⟨limits, progress⟩
  cases progress with
  | waiting rest =>
    refine .head (.inr <| OpenMove.wait waiting poll) (Quiet.chain ?_)
    exact ⟨rfl, rfl, rfl, rfl, rfl, rfl, overwrite _ i (fun _ => rfl), rfl, rfl, fun _ => rfl⟩
  | granted held =>
    refine .head (.inr <| OpenMove.grant waiting up poll) (Quiet.chain ?_)
    exact ⟨rfl, rfl, rfl, rfl, rfl, rfl, overwrite _ i (fun _ => rfl), rfl, rfl, fun _ => rfl⟩
  | refused error => exact refuse_moves here (.capacity up poll)

theorem enterOpen_moves (here : b.openings[i]? = some o) (held : b.locks.holds guard = true) :
    Chain (·.OpenMove i ·) (b.setOpening i (.queued guard)) (b.enterOpen i o.request guard) := by
  have queued := getElem?_setOpening here (.queued guard)
  unfold enterOpen
  cases down : b.shutdown with
  | true =>
    rw [attach_of_shutdown down]
    refine .head (.inr <| OpenMove.turnAway queued) (Quiet.chain ?_)
    exact ⟨rfl, rfl, rfl, rfl, rfl, rfl, overwrite _ i (fun _ => rfl), rfl, rfl, fun _ => rfl⟩
  | false =>
    obtain ⟨g, place, first, attached, seated⟩ := attach_seated down o.request.key
      b.registry.relays.length
    rw [attached]
    cases first with
    | true =>
      refine .trans (.head (.inr <| OpenMove.arrive (some (b.now + b.config.acquireTimeout)) queued
        held down seated) (Quiet.chain ?_)) (acquire_moves (b := { b with registry := g }) here
          down)
      exact ⟨rfl, rfl, rfl, rfl, rfl, rfl, overwrite _ i (fun _ => rfl), rfl, rfl, fun _ => rfl⟩
    | false =>
      refine .head (.inr <| OpenMove.join queued held down seated) (Quiet.chain ?_)
      exact ⟨rfl, rfl, rfl, rfl, rfl, rfl, overwrite _ i (fun _ => rfl), rfl, rfl, fun _ => rfl⟩

theorem startOpen_moves (here : b.openings[i]? = some o) (starting : o.state = .starting) :
    Chain (·.OpenMove i ·) b (b.startOpen i o.request) := by
  have here' : b.openings[i]? = some ⟨o.request, .starting⟩ := by
    rw [here, ← starting]
  have refused (e : OpenError) : Chain (·.OpenMove i ·) b (b.setOpening i (.refused e)) :=
    .single (.inr (.refuse e here'))
  unfold startOpen
  split
  · exact refused _
  · split
    · exact refused _
    · rename_i down
      have counted : Chain (·.OpenMove i ·) b { b with opens := b.opens + 1 } :=
        Quiet.chain ⟨rfl, rfl, rfl, rfl, rfl, rfl, rfl, rfl, rfl, fun _ => rfl⟩
      have queued := counted.tail
        (.inr <| .queue (b := { b with opens := b.opens + 1 }) here' (by simpa using down))
      rw [enter_eq]
      dsimp only
      split
      · rename_i held
        exact queued.trans (enterOpen_moves (b := { b with
          opens := b.opens + 1, locks := (b.locks.enter o.request.key).1 }) here held)
      · exact queued

theorem runOpen_moves (i : Nat) (ready : b.isReady (.opening i) = true) :
    Chain (·.OpenMove i ·) b (b.runOpen i) := by
  unfold runOpen
  cases here : b.openings[i]? with
  | none => exact .refl
  | some o =>
    have ready : b.openReady o = true := by simpa [isReady, here] using ready
    dsimp only
    cases matched : o.state with
    | starting => exact startOpen_moves here matched
    | queued guard =>
      have held : b.locks.holds guard = true := by simpa [openReady, matched] using ready
      have moves := enterOpen_moves here held
      rwa [setOpening_self here matched] at moves
    | acquiring guard place a =>
      dsimp only
      split
      · rename_i down
        have moves : Chain (·.OpenMove i ·) (b.setOpening i (.acquiring guard place a)) _ :=
          refuse_moves here (.closed down rfl)
        rwa [setOpening_self here matched] at moves
      · rename_i up
        have moves : Chain (·.OpenMove i ·) (b.setOpening i (.acquiring guard place a)) _ :=
          acquire_moves here (by simpa using up)
        rwa [setOpening_self here matched] at moves
    | disposing guard place error =>
      have moves : Chain (·.OpenMove i ·) (b.setOpening i (.disposing guard place error)) _ :=
        endRefusal_moves here
      rwa [setOpening_self here matched] at moves
    | refused error => exact .refl
    | opened place k => exact .refl
    | abandoned => exact .refl

theorem abandonOpen_acquiring (here : b.openings[i]? = some o)
    (matched : o.state = .acquiring guard place a) :
    ∃ g, b.abandonOpen i = ({ b with limits := a.abandon b.limits, registry := g }.leave
        guard).setOpening i .abandoned ∧
      Registry.Changed place.1 (·.depart place.2) b.registry g := by
  unfold abandonOpen
  rw [here]
  dsimp only
  rw [matched]
  dsimp only
  rcases detach_cases { b with limits := a.abandon b.limits } place with
    ⟨g, detached, table, changed, present⟩ | ⟨detached, gone⟩
  · rw [detached]
    have departed := Registry.Changed.depart (changed.updateSink place Sink.drop_id) table present
      (Registry.retireEntry_changed place.1)
    exact ⟨_, rfl, departed.updateSink place Sink.dropReader_id⟩
  · rw [detached]
    have departed := Registry.Changed.depart_of_absent gone (Registry.retireEntry_changed place.1)
    exact ⟨_, rfl, departed.updateSink place Sink.dropReader_id⟩

theorem giveUp_moves (here : b.openings[i]? = some o)
    (matched : o.state = .acquiring guard place a) : Chain OuterMove b (b.abandonOpen i) := by
  obtain ⟨g, same, changed⟩ := abandonOpen_acquiring here matched
  rw [same]
  refine .single (.inr <| .giveUp (r := o.request) ?_ changed)
  rw [here, ← matched]

theorem dropReader_moves (b : Broker) (place : SinkPlace) (k : Nat) :
    Chain OuterMove b (b.dropReader place k) :=
  (quiet_updateSink place Sink.dropReader_id).chain.tail (.inr <| .dropReader k)

theorem abandonOpen_moves (b : Broker) (i : Nat) : Chain OuterMove b (b.abandonOpen i) := by
  cases here : b.openings[i]? with
  | none => simp only [abandonOpen, here]; exact .refl
  | some o =>
    cases matched : o.state with
    | acquiring guard place a => exact giveUp_moves here matched
    | starting | refused error | abandoned =>
      simp only [abandonOpen, here, matched]
      exact .single (.inr <| .drop here (by rw [matched]; rfl))
    | queued guard =>
      simp only [abandonOpen, here, matched]
      exact .single (.inr <| .letGo here (.inl matched))
    | disposing guard place error =>
      simp only [abandonOpen, here, matched, dropPipe]
      refine .trans (quiet_updateSink place Sink.abandonClose_id).chain
        (.trans (quiet_updateSink place Sink.dropReader_id).chain ?_)
      exact .single (.inr <| .letGo here (.inr ⟨place, error, matched⟩))
    | opened place k =>
      simp only [abandonOpen, here, matched]
      exact .tail (dropReader_moves b place k)
        (.inr <| .drop (b := b.dropReader place k) here (by rw [matched]; rfl))

theorem enterDeparture_moves (here : b.departures[i]? = some d)
    (held : b.locks.holds guard = true) :
    Chain (·.DepartMove i ·) (b.setDeparture i (.queued guard)) (b.enterDeparture i d guard) := by
  have queued : (b.setDeparture i (.queued guard)).departures[i]? =
      some { d with state := .queued guard } := by simp [setDeparture, here]
  unfold enterDeparture
  rcases detach_cases b d.place with ⟨g, detached, table, changed, present⟩ | ⟨detached, gone⟩
  · rw [detached]
    have departed := (Registry.Changed.depart changed table present
      (Registry.retireAndRemove_changed d.key d.place.1)).updateSink d.place
        (Sink.beginClose_id · 0 b.now)
    refine .head (.inr <| DepartMove.depart queued rfl held departed (.inl rfl)) (Quiet.chain ?_)
    exact ⟨rfl, rfl, rfl, rfl, rfl, rfl, rfl, overwrite _ i fun _ => rfl, rfl, fun _ => rfl⟩
  · rw [detached]
    have departed := Registry.Changed.depart_of_absent gone
      (Registry.retireAndRemove_changed d.key d.place.1)
    refine .head (.inr <| DepartMove.depart queued rfl held departed (.inr rfl)) (Quiet.chain ?_)
    exact ⟨rfl, rfl, rfl, rfl, rfl, rfl, rfl, overwrite _ i fun _ => rfl, rfl, fun _ => rfl⟩

theorem setDeparture_self (here : b.departures[i]? = some d) : b.setDeparture i d.state = b := by
  have same : b.departures.modify i (fun p => { p with state := d.state }) = b.departures :=
    modify_self here rfl
  simp only [setDeparture, same]

theorem runDeparture_moves (i : Nat) (ready : b.isReady (.departure i) = true) :
    Chain (·.DepartMove i ·) b (b.runDeparture i) := by
  unfold runDeparture
  cases here : b.departures[i]? with
  | none => exact .refl
  | some d =>
    have ready : b.departureReady d = true := by simpa [isReady, here] using ready
    dsimp only
    cases matched : d.state with
    | watching =>
      have dismissed : b.Dismissed d := by
        simpa [departureReady, matched, Dismissed, or_comm, or_left_comm, or_assoc] using ready
      have queued : Chain (·.DepartMove i ·) b _ := .single (.inr <| .queue here matched dismissed)
      rw [enter_eq]
      dsimp only
      split
      · rename_i held
        exact queued.trans
          (enterDeparture_moves (b := { b with locks := (b.locks.enter d.key).1 }) here held)
      · exact queued
    | queued guard =>
      have held : b.locks.holds guard = true := by simpa [departureReady, matched] using ready
      have moves := enterDeparture_moves here held
      rwa [← matched, setDeparture_self here] at moves
    | closing => exact .single (.inr <| .done here matched)
    | ended => exact .refl

end Fanout.Broker
