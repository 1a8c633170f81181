import Fanout.Proofs.Broker.OpeningsFit

namespace Fanout

theorem Departure.Fits.keeps {d : Departure} {s s' : Roster} (h : d.Fits s)
    (k : Roster.Keeps d.place.2 s s') : d.Fits s' := by
  obtain ⟨key, seats, matched⟩ := h
  refine ⟨k.later.key.trans key, Nat.le_trans seats k.later.seats, ?_⟩
  cases state : d.state with
  | watching | queued guard =>
    rw [state] at matched
    rcases matched with closed | present
    · exact .inl (k.later.closed closed)
    · exact k.kept present
  | closing | ended =>
    rw [state] at matched
    exact k.gone seats matched

namespace Broker

variable {b b' : Broker} {i k : Nat} {d : Departure}

section Fits

theorem Watched.relay (h : b.Watched) (here : b.departures[k]? = some d) :
    ∃ s, b.roster? d.place.1 = some s ∧ d.Fits s := (h.matched k d here).2

theorem matched_changed {f : Roster → Roster} (h : b.Watched) (here : b.departures[k]? = some d)
    (changed : Registry.Changed i f b.registry b'.registry)
    (keeps : ∀ s, i = d.place.1 → b.roster? i = some s → Roster.Keeps d.place.2 s (f s)) :
    ∃ s, b'.roster? d.place.1 = some s ∧ d.Fits s := by
  obtain ⟨s, old, matched⟩ := h.relay here
  obtain ⟨s', new, ⟨same, rfl⟩ | ⟨-, rfl⟩⟩ := changed.forth old
  · exact ⟨_, new, matched.keeps (keeps s same.symm (same ▸ old))⟩
  · exact ⟨s', new, matched⟩

theorem matched_shutWhere {p : Nat → Roster → Prop} (h : b.Watched)
    (here : b.departures[k]? = some d) (shutWhere : Registry.ShutWhere p b.registry b'.registry) :
    ∃ s, b'.roster? d.place.1 = some s ∧ d.Fits s := by
  obtain ⟨s, old, matched⟩ := h.relay here
  obtain ⟨s', new, rfl | ⟨-, rfl⟩⟩ := shutWhere.forth old
  · exact ⟨s', new, matched⟩
  · exact ⟨_, new, matched.keeps (.shut s)⟩

theorem matched_seat {key : StreamKey} {place : SinkPlace} {first : Bool} (h : b.Watched)
    (here : b.departures[k]? = some d) (seat : b.registry.Seat key b'.registry place first) :
    ∃ s, b'.roster? d.place.1 = some s ∧ d.Fits s := by
  cases seat with
  | found s old _ opened _ _ rosters table =>
    refine matched_changed h here (.of_update (f := Roster.seat) old rosters table) ?_
    intro t _ there
    have same : s = t := Option.some.inj (old.symm.trans there)
    exact .seat (same ▸ opened)
  | made missing _ _ _ rosters =>
    obtain ⟨s, old, matched⟩ := h.relay here
    have differs : d.place.1 ≠ place.1 := fun same => by
      rw [roster?, same, missing] at old
      cases old
    exact ⟨s, by rw [roster?, rosters, Function.update_of_ne differs]; exact old, matched⟩

theorem OuterMove.matched (move : b.OuterMove b') (h : b.Sound)
    (here : b.departures[k]? = some d) : ∃ s, b'.roster? d.place.1 = some s ∧ d.Fits s := by
  cases move with
  | ask | token | cancel | dropReader | drop | letGo => exact h.watched.relay here
  | sweep => exact matched_shutWhere h.watched here Registry.evictEmpty_shutWhere
  | shutDown => exact matched_shutWhere h.watched here (Registry.stopAll_shutWhere b.now)
  | giveUp there changed =>
    refine matched_changed h.watched here changed fun s same _ => ?_
    obtain ⟨_, -, waits⟩ := h.openingsFit.acquiring _ _ _ _ _ there
    exact absurd (same ▸ (h.watched.matched k d here).1) waits.unpulled

theorem OpenMove.matched (move : b.OpenMove i b') (h : b.Sound)
    (here : b.departures[k]? = some d) : ∃ s, b'.roster? d.place.1 = some s ∧ d.Fits s := by
  cases move with
  | refuse | queue | turnAway | wait | grant => exact h.watched.relay here
  | arrive deadline there held up seated | join there held up seated =>
    exact matched_seat h.watched here (seated.seat h.listed)
  | deny there denied changed =>
    refine matched_changed h.watched here changed fun s same _ => ?_
    obtain ⟨_, -, waits⟩ := h.openingsFit.acquiring _ _ _ _ _ there
    exact absurd (same ▸ (h.watched.matched k d here).1) waits.unpulled
  | denyGone there denied gone changed | dispose there changed =>
    exact matched_changed h.watched here changed fun s _ _ => .retireIfEmpty s

theorem PullMove.matched (move : b.PullMove i b') (h : b.Sound)
    (here : b.departures[k]? = some d) : ∃ s, b'.roster? d.place.1 = some s ∧ d.Fits s := by
  cases move with
  | queue | finish | notice => exact h.watched.relay here
  | subscribe there queued held old changed =>
    exact matched_changed h.watched here changed fun s _ _ => .subscribe s
  | endFeed ending canceled there running changed =>
    exact matched_changed h.watched here changed fun s _ _ => .retire_withdraw s _
  | close sinks there leaving held changed =>
    exact matched_changed h.watched here changed fun s _ _ => .shut s

theorem StopMove.matched (move : b.StopMove i b') (h : b.Sound)
    (here : b.departures[k]? = some d) : ∃ s, b'.roster? d.place.1 = some s ∧ d.Fits s := by
  cases move with
  | queue | leave => exact h.watched.relay here
  | stop there queued held found changed out =>
    exact matched_changed h.watched here changed fun s _ _ => .shut s

end Fits

theorem tokenCanceled_iff {token : Nat} :
    b.tokenCanceled token = true ↔ b.tokens[token]? = some true := by
  unfold tokenCanceled
  cases b.tokens[token]? <;> simp

theorem Dismissed.tokens (h : b.Dismissed d) (shutdown : b'.shutdown = b.shutdown)
    (kept : ∀ t : Nat, b.tokens[t]? = some true → b'.tokens[t]? = some true) : b'.Dismissed d := by
  rcases h with dropped | canceled | down
  · exact .inl dropped
  · exact .inr (.inl (tokenCanceled_iff.mpr (kept _ (tokenCanceled_iff.mp canceled))))
  · exact .inr (.inr (shutdown.trans down))

namespace Watched

theorem pass (h : b.Watched) (departures : b'.departures = b.departures)
    (pulled : ∀ j, b.Pulled j → b'.Pulled j)
    (matched : ∀ (k : Nat) d, b.departures[k]? = some d →
      ∃ s, b'.roster? d.place.1 = some s ∧ d.Fits s)
    (dismissed : ∀ d, b.Dismissed d → b'.Dismissed d) : b'.Watched := by
  refine ⟨?_, departures ▸ h.single, ?_⟩
  · rw [departures]
    exact fun k d here => ⟨pulled _ (h.matched k d here).1, matched k d here⟩
  · rw [departures]
    exact fun k d here left => dismissed d (h.dismissed k d here left)

theorem add (h : b.Watched) {d : Departure} {s : Roster}
    (departures : b'.departures = b.departures ++ [d]) (rosters : b'.roster? = b.roster?)
    (pulls : b'.pulls = b.pulls) (watching : d.state = .watching) (pulled : b.Pulled d.place.1)
    (old : b.roster? d.place.1 = some s) (matched : d.Fits s)
    (fresh : d.place ∉ b.departures.map (·.place))
    (dismissed : ∀ d, b.Dismissed d → b'.Dismissed d) : b'.Watched := by
  have same (j : Nat) : b'.Pulled j ↔ b.Pulled j := pulled_congr (by rw [pulls])
  refine ⟨?_, ?_, ?_⟩
  · intro k e here
    rw [departures] at here
    rw [rosters, same]
    rcases getElem?_append_cases here with there | ⟨-, rfl⟩
    · exact h.matched k e there
    · exact ⟨pulled, s, old, matched⟩
  · rw [departures, List.map_append, List.nodup_append]
    refine ⟨h.single, by simp, ?_⟩
    simp only [List.map_cons, List.map_nil, List.mem_singleton]
    rintro place member _ rfl rfl
    exact fresh member
  · intro k e here left
    rw [departures] at here
    rcases getElem?_append_cases here with there | ⟨-, rfl⟩
    · exact dismissed e (h.dismissed k e there left)
    · exact absurd watching left

theorem outer (h : b.Sound) (move : b.OuterMove b') : b'.Watched := by
  have matched (k : Nat) (d : Departure) (here : b.departures[k]? = some d) := move.matched h here
  cases move with
  | ask | sweep | drop | letGo | giveUp =>
    exact h.watched.pass rfl (fun _ => id) matched fun _ => id
  | token canceled =>
    refine h.watched.pass rfl (fun _ => id) matched fun d dismissed =>
      dismissed.tokens rfl fun t here => ?_
    rwa [List.getElem?_append_left (List.getElem?_eq_some_iff.mp here).1]
  | cancel token =>
    refine h.watched.pass rfl (fun _ => id) matched fun d dismissed =>
      dismissed.tokens rfl fun t here => ?_
    have small := (List.getElem?_eq_some_iff.mp here).1
    by_cases same : token = t
    · subst same
      simp [small]
    · simpa [same] using here
  | shutDown =>
    exact h.watched.pass rfl (fun _ => id) matched fun d dismissed => .inr (.inr rfl)
  | dropReader l =>
    refine ⟨?_, ?_, ?_⟩
    · intro k d here
      rcases getElem?_modify_cases here with ⟨e, -, there, rfl⟩ | ⟨-, there⟩
      · exact h.watched.matched k e there
      · exact h.watched.matched k d there
    · have places : (b.departures.modify l fun d => { d with readerDropped := true }).map (·.place) =
          b.departures.map (·.place) := map_modify_same (fun _ => by rfl) _ _
      exact places ▸ h.watched.single
    · intro k d here left
      rcases getElem?_modify_cases here with ⟨e, -, there, rfl⟩ | ⟨-, there⟩
      · exact .inl rfl
      · exact h.watched.dismissed k d there left

theorem opening (h : b.Sound) (move : b.OpenMove i b') : b'.Watched := by
  have matched (k : Nat) (d : Departure) (here : b.departures[k]? = some d) := move.matched h here
  cases move with
  | refuse | queue | turnAway | wait | arrive | deny | denyGone | dispose =>
    exact h.watched.pass rfl (fun _ => id) matched fun _ => id
  | @join guard r pipe g place here held up seated =>
    have seat := seated.seat h.listed
    obtain ⟨s, new, key, -, number, present, -, fresh⟩ := seat.self
    have watched : ({ b with registry := g } : Broker).Watched :=
      h.watched.pass rfl (fun _ => id) matched fun _ => id
    refine watched.add (d := { key := r.key, place := place, token := r.token }) rfl rfl rfl rfl
      (h.pulled_of_join here held seat) new ⟨key, Nat.le_of_eq number.symm, .inr present⟩ ?_ fun _ => id
    intro taken
    obtain ⟨d, member, same⟩ := List.mem_map.mp taken
    obtain ⟨k, there⟩ := List.mem_iff_getElem?.mp member
    obtain ⟨t, old, -, small, -⟩ := h.watched.relay there
    rw [same] at old small
    exact absurd (fresh t old) (Nat.not_lt.mpr small)
  | @grant guard r place a limits held here up poll =>
    obtain ⟨s, old, waits⟩ := h.openingsFit.acquiring i r guard place a here
    have watched : ({ b with limits := limits }.startPull r place.1 held).Watched := by
      refine h.watched.pass rfl (fun j pulled => ?_) matched fun _ => id
      simp only [Pulled, startPull, List.map_append]
      exact List.mem_append_left _ pulled
    have present : s.closed = true ∨ place.2 ∈ s.present := by
      rcases waits.alone with ⟨-, alone⟩ | ⟨closed, -, -⟩
      · simp [alone]
      · exact .inl closed
    refine watched.add (d := { key := r.key, place := place, token := r.token }) rfl rfl rfl rfl
      (by simp [Pulled, startPull]) old ⟨waits.key, waits.seated, present⟩ ?_ fun _ => id
    intro taken
    obtain ⟨d, member, same⟩ := List.mem_map.mp taken
    obtain ⟨k, there⟩ := List.mem_iff_getElem?.mp member
    have pulled := (h.watched.matched k d there).1
    rw [same] at pulled
    exact waits.unpulled pulled

theorem own (h : b.Watched) {d : Departure} {state : DepartureState}
    (here : b.departures[i]? = some d)
    (departures : b'.departures = b.departures.modify i fun d => { d with state := state })
    (pulls : b'.pulls = b.pulls) (tokens : b'.tokens = b.tokens)
    (shutdown : b'.shutdown = b.shutdown) (dismissed : b.Dismissed d)
    (mine : ∃ s, b'.roster? d.place.1 = some s ∧ ({ d with state := state } : Departure).Fits s)
    (others : ∀ (k : Nat) e, b.departures[k]? = some e → e.place ≠ d.place →
      ∃ s, b'.roster? e.place.1 = some s ∧ e.Fits s) : b'.Watched := by
  have same (j : Nat) : b'.Pulled j ↔ b.Pulled j := pulled_congr (by rw [pulls])
  have still (e : Departure) (h : b.Dismissed e) : b'.Dismissed e :=
    h.tokens shutdown fun t here => tokens ▸ here
  refine ⟨?_, ?_, ?_⟩
  · intro k e there
    rw [departures] at there
    rw [same]
    rcases getElem?_modify_cases there with ⟨e, rfl, old, rfl⟩ | ⟨differs, there⟩
    · rw [here, Option.some.injEq] at old
      subst old
      exact ⟨(h.matched _ d here).1, mine⟩
    · refine ⟨(h.matched k e there).1, others k e there fun place => differs ?_⟩
      exact place_eq_of_key h.single here there place.symm
  · have places : b'.departures.map (·.place) = b.departures.map (·.place) := by
      rw [departures]
      exact map_modify_same (fun _ => by rfl) _ _
    exact places ▸ h.single
  · intro k e there left
    rw [departures] at there
    rcases getElem?_modify_cases there with ⟨e, rfl, old, rfl⟩ | ⟨-, there⟩
    · rw [here, Option.some.injEq] at old
      subst old
      exact still d dismissed
    · exact still e (h.dismissed k e there left)

theorem departure (h : b.Sound) (move : b.DepartMove i b') : b'.Watched := by
  have relay (k : Nat) (e : Departure) (there : b.departures[k]? = some e) := h.watched.relay there
  cases move with
  | @queue d here watching dismissed =>
    obtain ⟨s, old, key, seats, matched⟩ := relay i d here
    rw [watching] at matched
    exact h.watched.own here rfl rfl rfl rfl dismissed ⟨s, old, key, seats, matched⟩
      fun k e there _ => relay k e there
  | @depart guard d state g here queued held changed left =>
    have dismissed := h.watched.dismissed i d here (by rw [queued]; rintro ⟨⟩)
    obtain ⟨s, old, key, seats, -⟩ := relay i d here
    have later := Roster.Later.depart s d.place.2
    have gone := s.not_mem_depart d.place.2
    refine h.watched.own here rfl rfl rfl rfl dismissed ⟨_, changed.self old, ?_⟩ ?_
    · refine ⟨later.key.trans key, Nat.le_trans seats later.seats, ?_⟩
      rcases left with rfl | rfl
      · exact gone
      · exact gone
    · intro k e there place
      refine matched_changed h.watched there changed fun s relay _ => .depart s fun id => place ?_
      exact Prod.ext relay.symm id
  | @done d here closing =>
    have dismissed := h.watched.dismissed i d here (by rw [closing]; rintro ⟨⟩)
    obtain ⟨s, old, key, seats, matched⟩ := relay i d here
    rw [closing] at matched
    exact h.watched.own here rfl rfl rfl rfl dismissed ⟨s, old, key, seats, matched⟩
      fun k e there _ => relay k e there

theorem pull (h : b.Sound) (move : b.PullMove i b') : b'.Watched := by
  have matched (k : Nat) (d : Departure) (here : b.departures[k]? = some d) := move.matched h here
  have pulled (j : Nat) := (pulled_congr move.relays (j := j)).mpr
  cases move <;> exact h.watched.pass rfl pulled matched fun _ => id

theorem stop (h : b.Sound) (move : b.StopMove i b') : b'.Watched := by
  have matched (k : Nat) (d : Departure) (here : b.departures[k]? = some d) := move.matched h here
  cases move <;> exact h.watched.pass rfl (fun _ => id) matched fun _ => id

theorem move (h : b.Sound) (move : Move b b') : b'.Watched := by
  cases move with
  | quiet same =>
    refine h.watched.pass same.departures (fun j => ?_) (fun k d here => ?_) fun d dismissed => ?_
    · exact (pulled_congr (relays_of_lines same.lines)).mpr
    · rw [show b'.roster? = b.roster? from same.rosters]
      exact h.watched.relay here
    · unfold Dismissed tokenCanceled
      rw [same.tokens, same.shutdown]
      exact dismissed
  | outer move => exact outer h move
  | opening move => exact opening h move
  | departure move => exact departure h move
  | pull move => exact pull h move
  | stop move => exact stop h move

end Watched

end Broker

end Fanout
