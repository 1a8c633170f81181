import Fanout.Proofs.Broker.PullsFit

namespace Fanout.Broker

variable {b b' : Broker} {i j : Nat} {r : Request} {guard : Nat} {place : SinkPlace}
  {a : Acquisition} {s : Roster}

theorem Awaits.retireIfEmpty_eq (h : b.Awaits r place s) : s.retireIfEmpty = s := by
  rcases h.alone with ⟨-, alone⟩ | ⟨closed, -, -⟩
  · exact Roster.retireIfEmpty_of_present (by simp [alone])
  · exact Roster.retireIfEmpty_of_closed closed

theorem Awaits.unseat_empty (h : b.Awaits r place s) : (s.unseat place.2).present = [] := by
  rcases h.alone with ⟨-, alone⟩ | ⟨-, empty, -⟩
  · simp [Roster.unseat, alone]
  · simp [Roster.unseat, empty]

theorem Awaits.depart_empty (h : b.Awaits r place s) : (s.depart place.2).present = [] := by
  unfold Roster.depart
  split
  · exact (Roster.Drift.retireIfEmpty _).empty h.unseat_empty
  · rename_i gone
    rw [h.retireIfEmpty_eq]
    rcases h.alone with ⟨-, alone⟩ | ⟨-, empty, -⟩
    · simp [alone] at gone
    · exact empty

namespace Sound

/-- Nobody else has the lock of the key of a viewer who waits for the pull to be started. -/
theorem apart (h : b.Sound) (here : b.openings[i]? = some ⟨r, .acquiring guard place a⟩)
    {task : BrokerTask} {stake : Stake} (staked : b.stake? task = some stake)
    (held : b.locks.holds stake.guard = true) (other : task ≠ .opening i)
    (old : b.roster? place.1 = some s) : s.key ≠ stake.key := by
  intro same
  obtain ⟨t, there, waits⟩ := h.openingsFit.acquiring i r guard place a here
  rw [old, Option.some.injEq] at there
  subst there
  have mine : b.stake? (.opening i) = some ⟨r.key, guard, true⟩ := stake?_of_opening here
  -- the open keeps the lock while it waits, and only one task at a time has it
  exact other (h.locked.exclusive staked mine (same.symm.trans waits.key) held
    (h.locked.inside _ _ mine rfl))

theorem apart' (h : b.Sound) (here : b.openings[i]? = some ⟨r, .acquiring guard place a⟩)
    {r' : Request} {guard' : Nat} {place' : SinkPlace} {a' : Acquisition}
    (there : b.openings[j]? = some ⟨r', .acquiring guard' place' a'⟩) (differs : j ≠ i) :
    place.1 ≠ place'.1 := by
  intro same
  obtain ⟨s, old, waits⟩ := h.openingsFit.acquiring j r' guard' place' a' there
  have staked : b.stake? (.opening j) = some ⟨r'.key, guard', true⟩ := stake?_of_opening there
  exact h.apart here staked (h.locked.inside _ _ staked rfl) (by simpa using differs)
    (same ▸ old) waits.key

theorem apart_seat (h : b.Sound) (here : b.openings[i]? = some ⟨r, .acquiring guard place a⟩)
    {r' : Request} {guard' : Nat} {place' : SinkPlace} {g : Registry} {first : Bool}
    (there : b.openings[j]? = some ⟨r', .queued guard'⟩) (held : b.locks.holds guard' = true)
    (seat : b.registry.Seat r'.key g place' first) : place.1 ≠ place'.1 := by
  intro same
  cases seat with
  | found s old named =>
    have staked : b.stake? (.opening j) = some ⟨r'.key, guard', false⟩ := stake?_of_opening there
    have differs : BrokerTask.opening j ≠ .opening i := by
      rintro ⟨⟩
      rw [here] at there
      cases there
    exact h.apart here staked held differs (same ▸ old) named
  | made missing =>
    obtain ⟨s, old, -⟩ := h.openingsFit.acquiring i r guard place a here
    rw [same, roster?, missing] at old
    cases old

theorem pulled_of_join (h : b.Sound) {g : Registry}
    (here : b.openings[i]? = some ⟨r, .queued guard⟩) (held : b.locks.holds guard = true)
    (seat : b.registry.Seat r.key g place false) : b.Pulled place.1 := by
  by_contra unpulled
  have apart {k : Nat} {r' : Request} {guard' : Nat} {place' : SinkPlace} {a' : Acquisition}
      (there : b.openings[k]? = some ⟨r', .acquiring guard' place' a'⟩) : place'.1 ≠ place.1 :=
    h.apart_seat there here held seat
  cases seat with
  | found s old named opened number alone =>
    have watched : s.present ≠ [] := fun none => by cases alone.mpr none
    obtain ⟨k, r', guard', place', a', there, same⟩ :=
      h.openingsFit.unpulled place.1 s old watched unpulled
    exact apart there same
  | made missing number alone => cases alone

end Sound

/-- A viewer who waits for the pull to be started is left alone by the moves of others. -/
theorem Awaits.kept {r : Request} (h : b.Awaits r place s)
    (pulled : b'.Pulled place.1 → b.Pulled place.1)
    (down : b.shutdown = true → b'.shutdown = true) : b'.Awaits r place s := by
  refine ⟨h.key, h.seated, fun started => h.unpulled (pulled started), ?_⟩
  rcases h.alone with alone | ⟨closed, empty, shutdown⟩
  · exact .inl alone
  · exact .inr ⟨closed, empty, down shutdown⟩

section Spares

variable {a' : Acquisition}

theorem OuterMove.spares (move : b.OuterMove b') (h : b.Sound)
    (here : b.openings[i]? = some ⟨r, .acquiring guard place a⟩)
    (still : b'.openings[i]? = some ⟨r, .acquiring guard place a'⟩) :
    ∃ s, b'.roster? place.1 = some s ∧ b'.Awaits r place s := by
  obtain ⟨s, old, waits⟩ := h.openingsFit.acquiring i r guard place a here
  cases move with
  | ask | token | cancel | dropReader | drop | letGo => exact ⟨s, old, waits.kept id id⟩
  | sweep =>
    obtain ⟨s', new, rfl | ⟨empty, rfl⟩⟩ :=
      (Registry.evictEmpty_shutWhere (g := b.registry)).forth old
    · exact ⟨s', new, waits.kept id id⟩
    · refine ⟨_, new, waits.key, waits.seated, waits.unpulled, ?_⟩
      rcases waits.alone with ⟨-, alone⟩ | ⟨-, -, down⟩
      · rw [alone] at empty
        cases empty
      · exact .inr ⟨rfl, rfl, down⟩
  | shutDown =>
    obtain ⟨s', new, rfl | ⟨-, rfl⟩⟩ := (Registry.stopAll_shutWhere (g := b.registry) b.now).forth old
    · have closed := h.listed.closed_of_stopAll new
      refine ⟨s', new, waits.key, waits.seated, waits.unpulled, ?_⟩
      rcases waits.alone with ⟨opened, -⟩ | ⟨-, empty, -⟩
      · rw [opened] at closed
        cases closed
      · exact .inr ⟨closed, empty, rfl⟩
    · exact ⟨_, new, waits.key, waits.seated, waits.unpulled, .inr ⟨rfl, rfl, rfl⟩⟩
  | @giveUp j guard' r' place' a' g there changed =>
    have differs : j ≠ i := by
      rintro rfl
      cases (getElem?_setOpening there .abandoned).symm.trans still
    exact ⟨s, (changed.other (h.apart' here there differs)).trans old, waits.kept id id⟩

theorem OpenMove.spares (move : b.OpenMove j b') (h : b.Sound)
    (here : b.openings[i]? = some ⟨r, .acquiring guard place a⟩)
    (still : b'.openings[i]? = some ⟨r, .acquiring guard place a'⟩) :
    ∃ s, b'.roster? place.1 = some s ∧ b'.Awaits r place s := by
  obtain ⟨s, old, waits⟩ := h.openingsFit.acquiring i r guard place a here
  cases move with
  | refuse | queue | turnAway | wait => exact ⟨s, old, waits.kept id id⟩
  | arrive deadline there held up seated | join there held up seated =>
    have seat := seated.seat h.listed
    have differs := h.apart_seat here there held seat
    exact ⟨s, (seat.other differs).trans old, waits.kept id id⟩
  | @grant guard' r' place' a' limits held there up poll =>
    have differs : j ≠ i := by
      rintro rfl
      cases (getElem?_setOpening there (.opened place' b.departures.length)).symm.trans still
    refine ⟨s, old, waits.kept (fun pulled => ?_) id⟩
    obtain ⟨p, member, same⟩ := List.mem_map.mp pulled
    rcases List.mem_append.mp member with old | new
    · exact same ▸ List.mem_map_of_mem old
    · rw [List.mem_singleton.mp new] at same
      exact absurd same.symm (h.apart' here there differs)
  | @deny guard' r' place' a' limits error g there denied changed =>
    have differs : j ≠ i := by
      rintro rfl
      cases (getElem?_setOpening there (.disposing guard' place' error)).symm.trans still
    exact ⟨s, (changed.other (h.apart' here there differs)).trans old, waits.kept id id⟩
  | denyGone there denied gone changed | dispose there changed =>
    obtain ⟨s', new, ⟨-, rfl⟩ | ⟨-, rfl⟩⟩ := changed.forth old
    · rw [waits.retireIfEmpty_eq] at new
      exact ⟨s, new, waits.kept id id⟩
    · exact ⟨s', new, waits.kept id id⟩

theorem DepartMove.spares (move : b.DepartMove j b') (h : b.Sound)
    (here : b.openings[i]? = some ⟨r, .acquiring guard place a⟩) :
    ∃ s, b'.roster? place.1 = some s ∧ b'.Awaits r place s := by
  obtain ⟨s, old, waits⟩ := h.openingsFit.acquiring i r guard place a here
  cases move with
  | queue | done => exact ⟨s, old, waits.kept id id⟩
  | @depart guard' d state g there queued held changed left =>
    have differs : place.1 ≠ d.place.1 := fun same =>
      waits.unpulled (same ▸ (h.watched.matched j d there).1)
    exact ⟨s, (changed.other differs).trans old, waits.kept id id⟩

theorem PullMove.spares (move : b.PullMove j b') (h : b.Sound)
    (here : b.openings[i]? = some ⟨r, .acquiring guard place a⟩) :
    ∃ s, b'.roster? place.1 = some s ∧ b'.Awaits r place s := by
  obtain ⟨s, old, waits⟩ := h.openingsFit.acquiring i r guard place a here
  have pulled := (pulled_congr move.relays (j := place.1)).mp
  have differs {p : Pull} (there : b.pulls[j]? = some p) : place.1 ≠ p.relay := fun same =>
    waits.unpulled (same ▸ List.mem_map_of_mem (List.mem_of_getElem? there))
  cases move with
  | queue | finish | notice => exact ⟨s, old, waits.kept pulled id⟩
  | subscribe there queued held old' changed =>
    exact ⟨s, (changed.other (differs there)).trans old, waits.kept pulled id⟩
  | endFeed ending canceled there running changed =>
    exact ⟨s, (changed.other (differs there)).trans old, waits.kept pulled id⟩
  | close sinks there leaving held changed =>
    exact ⟨s, (changed.other (differs there)).trans old, waits.kept pulled id⟩

theorem StopMove.spares (move : b.StopMove j b') (h : b.Sound)
    (here : b.openings[i]? = some ⟨r, .acquiring guard place a⟩) :
    ∃ s, b'.roster? place.1 = some s ∧ b'.Awaits r place s := by
  obtain ⟨s, old, waits⟩ := h.openingsFit.acquiring i r guard place a here
  cases move with
  | queue | leave => exact ⟨s, old, waits.kept id id⟩
  | @stop guard' relay stop g state there queued held found changed out =>
    have staked : b.stake? (.stop j) = some ⟨stop.key, guard', false⟩ := by
      simp [Broker.stake?, there, Stop.stake?, queued, StopState.guard?]
    have differs : place.1 ≠ relay := by
      rintro rfl
      obtain ⟨t, there, named⟩ := h.listed.named _ (h.listed.find?_eq_some_iff.mp found)
      exact h.apart here staked held (by simp) there named
    exact ⟨s, (changed.other differs).trans old, waits.kept id id⟩

end Spares

theorem Sound.awaits_of_seat (h : b.Sound) {g : Registry}
    (seat : b.registry.Seat r.key g place true) (registry : b'.registry = g)
    (pulls : b'.pulls = b.pulls) : ∃ s, b'.roster? place.1 = some s ∧ b'.Awaits r place s := by
  obtain ⟨s, new, key, opened, number, -, alone, -⟩ := seat.self
  refine ⟨s, by rw [roster?, registry]; exact new, key, Nat.le_of_eq number.symm, ?_,
    .inl ⟨opened, alone rfl⟩⟩
  rw [Pulled, pulls]
  intro pulled
  cases seat with
  | found t old _ opened _ empty => exact h.pullsFit.watched pulled old opened (empty.mp rfl)
  | made missing =>
    obtain ⟨p, member, relay⟩ := List.mem_map.mp pulled
    obtain ⟨t, there, -⟩ := h.pullsFit.relay member
    rw [relay, roster?, missing] at there
    cases there

theorem OpenMove.acquiring (move : b.OpenMove i b') (h : b.Sound)
    (new : b'.openings[j]? = some ⟨r, .acquiring guard place a⟩) :
    ∃ s, b'.roster? place.1 = some s ∧ b'.Awaits r place s := by
  have spared {a₀ : Acquisition} (old : b.openings[j]? = some ⟨r, .acquiring guard place a₀⟩) :=
    move.spares h old new
  cases move with
  | arrive deadline here held up seated =>
    rcases openings_cases here new with ⟨rfl, rfl, same⟩ | ⟨-, old⟩
    · cases same
      exact h.awaits_of_seat (seated.seat h.listed) rfl rfl
    · exact spared old
  | wait here poll =>
    rcases openings_cases here new with ⟨rfl, rfl, same⟩ | ⟨-, old⟩
    · cases same
      exact spared here
    · exact spared old
  | refuse error here | queue here up | turnAway here | join here held up seated
  | grant here up poll | deny here denied changed | denyGone here denied gone changed
  | dispose here changed =>
    rcases openings_cases here new with ⟨-, -, same⟩ | ⟨-, old⟩
    · cases same
    · exact spared old

theorem OpenMove.opened (move : b.OpenMove i b') (h : b.OpeningsFit) {k : Nat}
    (new : b'.openings[j]? = some ⟨r, .opened place k⟩) :
    b'.departures[k]?.map Departure.line = some (r.key, place, r.token) := by
  have watched (d : Departure) (old : b.openings[j]? = some ⟨r, .opened place k⟩) :
      (b.departures ++ [d])[k]?.map Departure.line = some (r.key, place, r.token) := by
    have line := h.opened j r place k old
    obtain ⟨e, here, -⟩ := Option.map_eq_some_iff.mp line
    rwa [List.getElem?_append_left (List.getElem?_eq_some_iff.mp here).1]
  cases move with
  | join here held up seated | grant here up poll =>
    rcases openings_cases here new with ⟨-, rfl, same⟩ | ⟨-, old⟩
    · cases same
      simp [finishOpen, setOpening, leave, startPull, Departure.line]
    · exact watched _ old
  | refuse error here | queue here up | turnAway here | arrive deadline here held up seated
  | wait here poll | deny here denied changed | denyGone here denied gone changed
  | dispose here changed =>
    rcases openings_cases here new with ⟨-, -, same⟩ | ⟨-, old⟩
    · cases same
    · exact h.opened j r place k old

theorem Expected.other {o : Opening} {state : OpenState} (h : b.Expected j)
    (here : b.openings[i]? = some o)
    (mine : ∀ guard place a, o.state = .acquiring guard place a → place.1 ≠ j) :
    (b.setOpening i state).Expected j := by
  obtain ⟨k, r, guard, place, a, there, relay⟩ := h
  have differs : k ≠ i := by
    rintro rfl
    rw [here, Option.some.injEq] at there
    subst there
    exact mine guard place a rfl relay
  exact ⟨k, r, guard, place, a, (opening_other b state differs).trans there, relay⟩

theorem OpenMove.expected (move : b.OpenMove i b') (h : b.Sound) {s' : Roster}
    (new : b'.roster? j = some s') (watched : s'.present ≠ []) (unpulled : ¬ b'.Pulled j) :
    b'.Expected j := by
  have expected (s : Roster) (old : b.roster? j = some s) (watched : s.present ≠ [])
      (unpulled : ¬ b.Pulled j) : b.Expected j := h.openingsFit.unpulled j s old watched unpulled
  cases move with
  | refuse error here | queue here up | turnAway here =>
    exact (expected s' new watched unpulled).other here (by rintro _ _ _ ⟨⟩)
  | @arrive guard r pipe g place deadline here held up seated =>
    by_cases same : j = place.1
    · exact ⟨i, r, guard, place, _, getElem?_setOpening here _, same.symm⟩
    · have old := ((seated.seat h.listed).other same).symm.trans new
      exact (expected s' old watched unpulled).other here (by rintro _ _ _ ⟨⟩)
  | @join guard r pipe g place here held up seated =>
    have seat := seated.seat h.listed
    by_cases same : j = place.1
    · exact absurd (same ▸ h.pulled_of_join here held seat) unpulled
    · have old := (seat.other same).symm.trans new
      exact (expected s' old watched unpulled).other here (by rintro _ _ _ ⟨⟩)
  | @wait guard r place a rest limits here poll =>
    obtain ⟨k, r', guard', place', a', there, relay⟩ := expected s' new watched unpulled
    by_cases mine : k = i
    · subst mine
      rw [here] at there
      cases there
      exact ⟨k, r, guard, place, rest, getElem?_setOpening here _, relay⟩
    · exact ⟨k, r', guard', place', a', (opening_other b _ mine).trans there, relay⟩
  | @grant guard r place a limits held here up poll =>
    have started : j ≠ place.1 := by
      rintro rfl
      refine unpulled ?_
      simp [Pulled, startPull, finishOpen, setOpening, leave]
    have before : ¬ b.Pulled j := fun pulled => unpulled (by
      simp only [Pulled, startPull, finishOpen, setOpening, leave, List.map_append]
      exact List.mem_append_left _ pulled)
    refine (expected s' new watched before).other here ?_
    rintro _ _ _ ⟨⟩ relay
    exact started relay.symm
  | @deny guard r place a limits error g here denied changed =>
    obtain ⟨s, old, watched'⟩ := changed.watched
      (fun s none => by simp [Roster.unseat, none]) new watched
    refine (expected s old watched' unpulled).other here ?_
    rintro _ _ _ ⟨⟩ rfl
    obtain ⟨t, there, waits⟩ := h.openingsFit.acquiring i r guard place a here
    have same : t.unseat place.2 = s' := Option.some.inj ((changed.self there).symm.trans new)
    exact watched (same ▸ waits.unseat_empty)
  | @denyGone guard r place a limits error g here denied gone changed =>
    obtain ⟨s, old, watched'⟩ := changed.watched
      (fun s => (Roster.Drift.retireIfEmpty s).empty) new watched
    refine (expected s old watched' unpulled).other here ?_
    rintro _ _ _ ⟨⟩ rfl
    obtain ⟨t, there, waits⟩ := h.openingsFit.acquiring i r guard place a here
    have absent := gone t there
    rcases waits.alone with ⟨-, alone⟩ | ⟨-, empty, -⟩
    · simp [alone] at absent
    · have same : s = t := Option.some.inj (old.symm.trans there)
      exact watched' (same ▸ empty)
  | dispose here changed =>
    obtain ⟨s, old, watched⟩ := changed.watched (fun s => (Roster.Drift.retireIfEmpty s).empty)
      new watched
    exact (expected s old watched unpulled).other here (by rintro _ _ _ ⟨⟩)

theorem OuterMove.expected (move : b.OuterMove b') (h : b.Sound) {s' : Roster}
    (new : b'.roster? j = some s') (watched : s'.present ≠ []) (unpulled : ¬ b'.Pulled j) :
    b'.Expected j := by
  have expected (s : Roster) (old : b.roster? j = some s) (watched : s.present ≠ [])
      (unpulled : ¬ b.Pulled j) : b.Expected j := h.openingsFit.unpulled j s old watched unpulled
  cases move with
  | ask =>
    obtain ⟨k, r, guard, place, a, there, relay⟩ := expected s' new watched unpulled
    refine ⟨k, r, guard, place, a, ?_, relay⟩
    rwa [List.getElem?_append_left (List.getElem?_eq_some_iff.mp there).1]
  | token | cancel | dropReader => exact expected s' new watched unpulled
  | sweep =>
    obtain ⟨s, old, watched⟩ := (Registry.evictEmpty_shutWhere (g := b.registry)).watched new watched
    exact expected s old watched unpulled
  | shutDown =>
    obtain ⟨s, old, watched⟩ :=
      (Registry.stopAll_shutWhere (g := b.registry) b.now).watched new watched
    exact expected s old watched unpulled
  | drop here out =>
    refine (expected s' new watched unpulled).other here fun guard place a matched => ?_
    rw [matched] at out
    cases out
  | letGo here guarded =>
    refine (expected s' new watched unpulled).other here fun guard place a matched => ?_
    rw [matched] at guarded
    rcases guarded with same | ⟨_, _, same⟩
    · cases same
    · cases same
  | @giveUp i guard r place a g here changed =>
    obtain ⟨s, old, watched'⟩ := changed.watched
      (fun s => (Roster.Drift.depart s place.2).empty) new watched
    refine (expected s old watched' unpulled).other here ?_
    rintro _ _ _ ⟨⟩ rfl
    obtain ⟨t, there, waits⟩ := h.openingsFit.acquiring i r guard place a here
    have same : t.depart place.2 = s' := Option.some.inj ((changed.self there).symm.trans new)
    exact watched (same ▸ waits.depart_empty)

theorem OpeningsFit.pass (h : b.OpeningsFit) (openings : b'.openings = b.openings)
    (departures : b'.departures.map Departure.line = b.departures.map Departure.line)
    (pulls : b'.pulls.map (·.relay) = b.pulls.map (·.relay))
    (spares : ∀ (i : Nat) r guard place a, b.openings[i]? = some ⟨r, .acquiring guard place a⟩ →
      ∃ s, b'.roster? place.1 = some s ∧ b'.Awaits r place s)
    (watched : ∀ j s', b'.roster? j = some s' → s'.present ≠ [] →
      ∃ s, b.roster? j = some s ∧ s.present ≠ []) : b'.OpeningsFit := by
  refine ⟨?_, ?_, ?_⟩
  · rw [openings]
    exact spares
  · intro i r place k here
    rw [openings] at here
    rw [← List.getElem?_map, departures, List.getElem?_map]
    exact h.opened i r place k here
  · intro j s' new present unpulled
    obtain ⟨s, old, present⟩ := watched j s' new present
    unfold Expected
    rw [openings]
    exact h.unpulled j s old present fun pulled => unpulled ((pulled_congr pulls).mpr pulled)

theorem DepartMove.lines (move : b.DepartMove i b') :
    b'.departures.map Departure.line = b.departures.map Departure.line := by
  cases move
  all_goals
    refine map_modify_same (fun d => ?_) b.departures i
    rfl

namespace OpeningsFit

theorem outer (h : b.Sound) (move : b.OuterMove b') : b'.OpeningsFit := by
  refine ⟨fun i r guard place a new => ?_, fun i r place k new => ?_,
    fun j s' new watched unpulled => move.expected h new watched unpulled⟩
  · rcases move.openings new with here | same | same
    · exact move.spares h here new
    · cases same
    · cases same
  · rcases move.openings new with here | same | same
    · have opened := h.openingsFit.opened i r place k here
      cases move with
      | dropReader l =>
        have lines : (b.departures.modify l fun d => { d with readerDropped := true }).map
            Departure.line = b.departures.map Departure.line :=
          map_modify_same (fun _ => by rfl) _ _
        rwa [← List.getElem?_map, lines, List.getElem?_map]
      | _ => exact opened
    · cases same
    · cases same

theorem opening (h : b.Sound) (move : b.OpenMove i b') : b'.OpeningsFit where
  acquiring _ _ _ _ _ new := move.acquiring h new
  opened _ _ _ _ new := move.opened h.openingsFit new
  unpulled _ _ new watched unpulled := move.expected h new watched unpulled

theorem departure (h : b.Sound) (move : b.DepartMove i b') : b'.OpeningsFit := by
  have lines := move.lines
  have spares (j : Nat) (r : Request) (guard : Nat) (place : SinkPlace) (a : Acquisition)
      (here : b.openings[j]? = some ⟨r, .acquiring guard place a⟩) := move.spares h here
  cases move with
  | queue | done =>
    exact h.openingsFit.pass rfl lines rfl spares fun j s' new watched => ⟨s', new, watched⟩
  | depart here queued held changed left =>
    exact h.openingsFit.pass rfl lines rfl spares fun j s' =>
      changed.watched fun s => (Roster.Drift.depart s _).empty

theorem pull (h : b.Sound) (move : b.PullMove i b') : b'.OpeningsFit := by
  have relays := move.relays
  have spares (j : Nat) (r : Request) (guard : Nat) (place : SinkPlace) (a : Acquisition)
      (here : b.openings[j]? = some ⟨r, .acquiring guard place a⟩) := move.spares h here
  cases move with
  | queue | finish | notice =>
    exact h.openingsFit.pass rfl rfl relays spares fun j s' new watched => ⟨s', new, watched⟩
  | subscribe here queued held old changed =>
    exact h.openingsFit.pass rfl rfl relays spares fun j s' => changed.watched fun s => id
  | @endFeed p g ending canceled here running changed =>
    refine h.openingsFit.pass rfl rfl relays spares fun j s' => changed.watched fun s none => ?_
    cases p.listener <;> exact none
  | close sinks here leaving held changed =>
    exact h.openingsFit.pass rfl rfl relays spares fun j s' => changed.watched fun s _ => rfl

theorem stop (h : b.Sound) (move : b.StopMove i b') : b'.OpeningsFit := by
  have spares (j : Nat) (r : Request) (guard : Nat) (place : SinkPlace) (a : Acquisition)
      (here : b.openings[j]? = some ⟨r, .acquiring guard place a⟩) := move.spares h here
  cases move with
  | queue | leave =>
    exact h.openingsFit.pass rfl rfl rfl spares fun j s' new watched => ⟨s', new, watched⟩
  | stop here queued held found changed out =>
    exact h.openingsFit.pass rfl rfl rfl spares fun j s' => changed.watched fun s _ => rfl

theorem move (h : b.Sound) (move : Move b b') : b'.OpeningsFit := by
  cases move with
  | quiet same =>
    have rosters : b'.roster? = b.roster? := same.rosters
    have relays := relays_of_lines same.lines
    refine h.openingsFit.pass same.openings (by rw [same.departures]) relays ?_ ?_
    · intro j r guard place a here
      obtain ⟨s, old, waits⟩ := h.openingsFit.acquiring j r guard place a here
      exact ⟨s, by rw [rosters, old], waits.kept (pulled_congr relays).mp (same.shutdown ▸ id)⟩
    · intro j s' new watched
      exact ⟨s', by rw [← rosters, new], watched⟩
  | outer move => exact outer h move
  | opening move => exact opening h move
  | departure move => exact departure h move
  | pull move => exact pull h move
  | stop move => exact stop h move

end OpeningsFit

end Fanout.Broker
