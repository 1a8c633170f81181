import Fanout.Proofs.Broker.Invariant

namespace Fanout

namespace Pull.Fits

variable {p : Pull} {s s' : Roster}

theorem drift (h : p.Fits s) (d : s.Drift s') : p.Fits s' := by
  obtain ⟨key, fits⟩ := h
  refine ⟨key.trans d.later.key.symm, ?_⟩
  cases matched : p.state with
  | starting | queued guard =>
    rw [matched] at fits
    obtain ⟨awake, unborn, silent, closedIffEmpty⟩ := fits
    exact ⟨awake, unborn, d.silent silent, d.closedIffEmpty closedIffEmpty⟩
  | running =>
    rw [matched] at fits
    obtain ⟨number, told, closedIffEmpty, waiting | ⟨ended, canceled, empty⟩⟩ := fits
    · exact ⟨number, d.told told, d.closedIffEmpty closedIffEmpty, .inl waiting⟩
    · exact ⟨number, d.told told, d.closedIffEmpty closedIffEmpty, .inr ⟨ended, canceled, d.empty empty⟩⟩
  | leaving guard ending canceled =>
    rw [matched] at fits
    obtain ⟨closed, ended, empty⟩ := fits
    exact ⟨d.later.closed closed, ended, fun canceled => d.empty (empty canceled)⟩
  | closing sinks ending canceled | ended outcome =>
    rw [matched] at fits
    obtain ⟨closed, ended, empty⟩ := fits
    exact ⟨d.later.closed closed, ended, d.empty empty⟩

theorem watched (h : p.Fits s) (opened : s.closed = false) : s.present ≠ [] := by
  obtain ⟨-, fits⟩ := h
  have closedIffEmpty (l : s.ClosedIffEmpty) : s.present ≠ [] := fun none => by
    rw [l.mpr none] at opened
    cases opened
  have absurd (closed : s.closed = true) : s.present ≠ [] := by
    rw [closed] at opened
    cases opened
  cases matched : p.state <;> rw [matched] at fits
  · exact closedIffEmpty fits.2.2.2
  · exact closedIffEmpty fits.2.2.2
  · exact closedIffEmpty fits.2.2.1
  · exact absurd fits.1
  · exact absurd fits.1
  · exact absurd fits.1

end Pull.Fits

namespace Broker

variable {b b' : Broker} {i : Nat}

/-- What a move does to the relays of the pulls it is not about, and to relays without a pull. -/
structure Drifted (b b' : Broker) : Prop where
  pulled : ∀ j s, b.Pulled j → b.roster? j = some s → ∃ s', b'.roster? j = some s' ∧ s.Drift s'
  silent : ∀ j s', b'.roster? j = some s' →
    (∀ s, b.roster? j = some s → s.signals = []) → s'.signals = []

namespace Drifted

theorem still (rosters : b'.registry.roster? = b.registry.roster?) : b.Drifted b' where
  pulled j s _ old := ⟨s, by rw [roster?, rosters]; exact old, .still⟩
  silent j s' new silent := silent s' (by rw [roster?, ← rosters]; exact new)

theorem changed {f : Roster → Roster} (h : Registry.Changed i f b.registry b'.registry)
    (drift : ∀ s, b.Pulled i → b.roster? i = some s → s.Drift (f s))
    (silent : ∀ s, s.signals = [] → (f s).signals = []) : b.Drifted b' where
  pulled j s pulled old := by
    obtain ⟨s', new, ⟨rfl, rfl⟩ | ⟨-, rfl⟩⟩ := h.forth old
    · exact ⟨_, new, drift s pulled old⟩
    · exact ⟨_, new, .still⟩
  silent j s' new before := by
    obtain ⟨s, old, ⟨-, rfl⟩ | ⟨-, rfl⟩⟩ := h.back new
    · exact silent s (before s old)
    · exact before s' old

theorem shutWhere {p : Nat → Roster → Prop} (h : Registry.ShutWhere p b.registry b'.registry) :
    b.Drifted b' where
  pulled j s _ old := by
    obtain ⟨s', new, rfl | ⟨-, rfl⟩⟩ := h.forth old
    · exact ⟨_, new, .still⟩
    · exact ⟨_, new, .shut⟩
  silent j s' new before := by
    obtain ⟨s, old, rfl | ⟨-, rfl⟩⟩ := h.back new
    · exact before s' old
    · simp [Roster.shut, before s old]

theorem seat {key : StreamKey} {place : SinkPlace} {first : Bool}
    (h : b.registry.Seat key b'.registry place first)
    (watched : ∀ s, b.Pulled place.1 → b.roster? place.1 = some s → s.closed = false →
      s.present ≠ []) : b.Drifted b' := by
  cases h with
  | found s old named opened number alone rosters table =>
    refine changed (.of_update (f := Roster.seat) old rosters table) ?_ fun _ silent => silent
    intro t pulled old'
    have same : s = t := by rwa [roster?, old, Option.some.injEq] at old'
    subst same
    exact .join opened (watched s pulled old opened)
  | made missing number alone closed rosters table =>
    have differs (j : Nat) (s : Roster) (old : b.roster? j = some s) : j ≠ place.1 := fun same => by
      rw [same, roster?, missing] at old
      cases old
    refine ⟨fun j s _ old => ⟨s, ?_, .still⟩, fun j s' new before => ?_⟩
    · rw [roster?, rosters, Function.update_of_ne (differs j s old)]
      exact old
    · rw [roster?, rosters] at new
      by_cases same : j = place.1
      · subst same
        rw [Function.update_self, Option.some.injEq] at new
        exact new ▸ rfl
      · rw [Function.update_of_ne same] at new
        exact before s' new

end Drifted

theorem PullsFit.relay (h : b.PullsFit) {p : Pull} (member : p ∈ b.pulls) :
    ∃ s, b.roster? p.relay = some s ∧ p.Fits s := by
  obtain ⟨i, here⟩ := List.mem_iff_getElem?.mp member
  exact h.fits i p here

theorem PullsFit.watched (h : b.PullsFit) {j : Nat} {s : Roster} (pulled : b.Pulled j)
    (old : b.roster? j = some s) (opened : s.closed = false) : s.present ≠ [] := by
  obtain ⟨p, member, rfl⟩ := List.mem_map.mp pulled
  obtain ⟨t, same, fits⟩ := h.relay member
  rw [old, Option.some.injEq] at same
  subst same
  exact fits.watched opened

theorem OuterMove.drifted (move : b.OuterMove b') : b.Drifted b' := by
  cases move with
  | ask | token | cancel | dropReader | drop | letGo => exact .still rfl
  | sweep => exact .shutWhere Registry.evictEmpty_shutWhere
  | shutDown => exact .shutWhere (Registry.stopAll_shutWhere b.now)
  | giveUp here changed =>
    exact .changed changed (fun s _ _ => .depart s _) fun _ => Roster.signals_depart

theorem OpenMove.drifted (move : b.OpenMove i b') (h : b.Sound) : b.Drifted b' := by
  cases move with
  | refuse | queue | turnAway | wait | grant => exact .still rfl
  | arrive deadline here held up seated =>
    exact .seat (seated.seat h.listed) fun s pulled => h.pullsFit.watched pulled
  | join here held up seated =>
    exact .seat (seated.seat h.listed) fun s pulled => h.pullsFit.watched pulled
  | deny here denied changed =>
    refine .changed changed (fun s pulled _ => ?_) fun s silent => by simp [Roster.unseat, silent]
    obtain ⟨_, _, waits⟩ := h.openingsFit.acquiring _ _ _ _ _ here
    exact absurd pulled waits.unpulled
  | denyGone here denied gone changed =>
    exact .changed changed (fun s _ _ => .retireIfEmpty s) fun _ => Roster.signals_retireIfEmpty
  | dispose here changed =>
    exact .changed changed (fun s _ _ => .retireIfEmpty s) fun _ => Roster.signals_retireIfEmpty

theorem DepartMove.drifted (move : b.DepartMove i b') : b.Drifted b' := by
  cases move with
  | queue | done => exact .still rfl
  | depart here queued held changed left =>
    exact .changed changed (fun s _ _ => .depart s _) fun _ => Roster.signals_depart

theorem StopMove.drifted (move : b.StopMove i b') : b.Drifted b' := by
  cases move with
  | queue | leave => exact .still rfl
  | stop here queued held found changed out =>
    exact .changed changed (fun s _ _ => .shut) fun s silent => by simp [Roster.shut, silent]

theorem pulled_congr (pulls : b'.pulls.map (·.relay) = b.pulls.map (·.relay)) {j : Nat} :
    b'.Pulled j ↔ b.Pulled j := by
  unfold Pulled
  rw [pulls]

theorem relays_of_lines (lines : b'.pulls.map Pull.line = b.pulls.map Pull.line) :
    b'.pulls.map (·.relay) = b.pulls.map (·.relay) := by
  have both := congrArg (List.map Prod.snd) lines
  rwa [List.map_map, List.map_map] at both

theorem pullSignal_eq {p : Pull} {s : Roster} (old : b.roster? p.relay = some s)
    (number : p.listener = 1) (told : s.Told) :
    b.pullSignal p = if s.present = [] then .fired else .pending := by
  obtain ⟨r, relay, rfl⟩ := Registry.relay_of_roster? old
  have signals : r.signals = _ := told
  simp [pullSignal, relay, number, Relay.signal?, signals]

/-- Only the watcher of a running pull can be told something, namely that nobody is attached. -/
theorem notified {p : Pull} {s : Roster} (h : p.Fits s)
    (old : b.roster? p.relay = some s) (ready : b.watcherReady p = true) :
    p.state = .running ∧ p.listener = 1 ∧ s.Told ∧ s.ClosedIffEmpty ∧ s.present = [] := by
  obtain ⟨key, fits⟩ := h
  have waiting : p.watcher = .waiting ∧ b.pullSignal p ≠ .pending := by
    simpa [watcherReady] using ready
  cases matched : p.state with
  | running =>
    rw [matched] at fits
    obtain ⟨number, told, closedIffEmpty, -⟩ := fits
    refine ⟨rfl, number, told, closedIffEmpty, ?_⟩
    by_contra watched
    exact waiting.2 (by rw [pullSignal_eq old number told, if_neg watched])
  | starting | queued guard =>
    rw [matched] at fits
    rw [fits.2.1] at waiting
    cases waiting.1
  | leaving guard ending canceled | closing sinks ending canceled | ended outcome =>
    rw [matched] at fits
    rw [fits.2.1] at waiting
    cases waiting.1

theorem lines_of_outlines (outlines : b'.pulls.map Pull.outline = b.pulls.map Pull.outline) :
    b'.pulls.map Pull.line = b.pulls.map Pull.line := by
  have both := congrArg (List.map Pull.line) outlines
  rwa [List.map_map, List.map_map] at both

theorem Quiet.lines (same : b.Quiet b') : b'.pulls.map Pull.line = b.pulls.map Pull.line :=
  lines_of_outlines same.pulls

theorem PullMove.lines (move : b.PullMove i b') :
    b'.pulls.map Pull.line = b.pulls.map Pull.line := by
  cases move
  all_goals
    refine map_modify_same (fun q => ?_) b.pulls i
    rfl

theorem PullMove.relays (move : b.PullMove i b') :
    b'.pulls.map (·.relay) = b.pulls.map (·.relay) := relays_of_lines move.lines

namespace PullsFit

theorem outlived_later (h : b.PullsFit) (later : b.registry.Later b'.registry) :
    (b.pulls.map Pull.line).Pairwise b'.Outlived := by
  refine h.outlived.imp_of_mem fun {older newer} member _ closed key s' new => ?_
  obtain ⟨p, pin, rfl⟩ := List.mem_map.mp member
  obtain ⟨s, old, -⟩ := h.relay pin
  obtain ⟨t, same, goes⟩ := later p.relay s old
  rw [show b'.registry.roster? p.relay = some s' from new, Option.some.injEq] at same
  exact same ▸ goes.closed (closed key s old)

theorem drift (h : b.PullsFit) (drifted : b.Drifted b') (later : b.registry.Later b'.registry)
    (pulls : b'.pulls.map Pull.outline = b.pulls.map Pull.outline) : b'.PullsFit := by
  have lines := lines_of_outlines pulls
  have relays := relays_of_lines lines
  refine ⟨?_, relays ▸ h.single, ?_, lines ▸ h.outlived_later later⟩
  · intro i p' here'
    obtain ⟨p, here, same⟩ := pull_of_outlines pulls.symm here'
    obtain ⟨s, old, fits⟩ := h.fits i p here
    obtain ⟨s', new, d⟩ := drifted.pulled p.relay s
      (List.mem_map_of_mem (List.mem_of_getElem? here)) old
    have relay : p.outline.relay = p'.outline.relay := congrArg (·.relay) same
    have fits' : p.outline.Fits s' := fits.drift d
    rw [same] at fits'
    exact ⟨s', by rwa [show p'.relay = p.relay from relay.symm], fits'⟩
  · intro j s' new unpulled
    rw [pulled_congr relays] at unpulled
    exact drifted.silent j s' new fun s old => h.unheard j s old unpulled

theorem own (h : b.PullsFit) {p : Pull} {f : Pull → Pull} {k : Roster → Roster}
    (here : b.pulls[i]? = some p) (pulls : b'.pulls = b.pulls.modify i f)
    (keeps : ∀ q, (f q).line = q.line)
    (changed : Registry.Changed p.relay k b.registry b'.registry)
    (later : ∀ s : Roster, s.Later (k s))
    (fits : ∀ s, b.roster? p.relay = some s → p.Fits s → (f p).Fits (k s)) : b'.PullsFit := by
  have lines : b'.pulls.map Pull.line = b.pulls.map Pull.line := by
    rw [pulls]
    exact map_modify_same keeps _ _
  have relays := relays_of_lines lines
  have pulled : b.Pulled p.relay := List.mem_map_of_mem (List.mem_of_getElem? here)
  refine ⟨?_, relays ▸ h.single, ?_,
    lines ▸ h.outlived_later (changed.later fun s _ => later s)⟩
  · intro j q here'
    rw [pulls] at here'
    rcases getElem?_modify_cases here' with ⟨q', same, there, rfl⟩ | ⟨differs, there⟩
    · subst same
      rw [here, Option.some.injEq] at there
      subst there
      obtain ⟨s, old, fit⟩ := h.fits _ p here
      have relay : (f p).relay = p.relay := congrArg Prod.snd (keeps p)
      exact ⟨k s, by rw [relay]; exact changed.self old, fits s old fit⟩
    · obtain ⟨s, old, fit⟩ := h.fits j q there
      have elsewhere : q.relay ≠ p.relay := fun same =>
        differs (place_eq_of_key h.single here there same.symm)
      exact ⟨s, (changed.other elsewhere).trans old, fit⟩
  · intro j s' new unpulled
    rw [pulled_congr relays] at unpulled
    obtain ⟨s, old, ⟨rfl, rfl⟩ | ⟨-, rfl⟩⟩ := changed.back new
    · exact absurd pulled unpulled
    · exact h.unheard j s' old unpulled

theorem start (h : b.PullsFit) {p : Pull} {s : Roster} (pulls : b'.pulls = b.pulls ++ [p])
    (rosters : b'.registry.roster? = b.registry.roster?) (old : b.roster? p.relay = some s)
    (unpulled : ¬ b.Pulled p.relay) (fits : p.Fits s)
    (closed : ∀ j t, j ≠ p.relay → b.roster? j = some t → t.key = p.key → t.closed = true) :
    b'.PullsFit := by
  have same : b'.roster? = b.roster? := rosters
  refine ⟨?_, ?_, ?_, ?_⟩
  · intro i q here
    rw [pulls] at here
    rw [same]
    rcases getElem?_append_cases here with there | ⟨-, rfl⟩
    · exact h.fits i q there
    · exact ⟨s, old, fits⟩
  · rw [pulls, List.map_append, List.nodup_append]
    refine ⟨h.single, by simp, ?_⟩
    simp only [List.map_cons, List.map_nil, List.mem_singleton]
    rintro j member _ rfl rfl
    exact unpulled member
  · intro j t new unpulled'
    rw [same] at new
    refine h.unheard j t new fun pulled => unpulled' ?_
    rw [Pulled, pulls, List.map_append]
    exact List.mem_append_left _ pulled
  · rw [pulls, List.map_append, List.pairwise_append]
    have outlived : b'.Outlived = b.Outlived := by
      funext older newer
      simp only [Outlived, same]
    refine ⟨outlived ▸ h.outlived, by simp, ?_⟩
    simp only [List.map_cons, List.map_nil, List.mem_singleton]
    rintro older member _ rfl key t new
    obtain ⟨q, qin, rfl⟩ := List.mem_map.mp member
    have here : b.roster? q.relay = some t := same ▸ new
    obtain ⟨t', there, fit⟩ := h.relay qin
    rw [here, Option.some.injEq] at there
    subst there
    refine closed q.relay t (fun eq => unpulled ?_) here (fit.1.symm.trans key)
    exact eq ▸ List.mem_map_of_mem qin

theorem opening (h : b.Sound) (move : b.OpenMove i b') : b'.PullsFit := by
  have drifted := move.drifted h
  have later := (move.onward h.listed).later
  cases move with
  | @grant guard r place a limits held here up poll =>
    obtain ⟨s, old, waits⟩ := h.openingsFit.acquiring _ _ _ _ _ here
    -- a relay closed in the meantime would mean a shutdown, and that refuses the open
    obtain ⟨opened, alone⟩ : s.closed = false ∧ s.present = [place.2] := by
      rcases waits.alone with alone | ⟨-, -, down⟩
      · exact alone
      · rw [up] at down
        cases down
    have silent := h.pullsFit.unheard _ s old waits.unpulled
    refine h.pullsFit.start (p := { key := r.key, relay := place.1, feed := r.feed, held := held }) rfl
      rfl old waits.unpulled ⟨waits.key.symm, rfl, rfl, silent, ?_⟩ ?_
    · simp [Roster.ClosedIffEmpty, opened, alone]
    · intro j t differs there key
      by_contra shut
      -- both relays would be in the table under the one key
      have mine := h.listed.registered _ s old opened
      have other := h.listed.registered j t there (by simpa using shut)
      rw [waits.key] at mine
      rw [key] at other
      exact differs (h.listed.eq_of_key other mine)
  | refuse | queue | turnAway | wait | arrive | join | deny | denyGone | dispose =>
    exact h.pullsFit.drift drifted later rfl

theorem pull (h : b.PullsFit) (move : b.PullMove i b') : b'.PullsFit := by
  cases move with
  | @queue p here starting =>
    refine h.own (k := id) here rfl (fun _ => rfl) (.of_same rfl rfl fun _ _ => rfl) .refl ?_
    rintro s - ⟨key, fits⟩
    rw [starting] at fits
    exact ⟨key, fits⟩
  | @subscribe guard p s g here queued held old changed =>
    refine h.own here rfl (fun _ => rfl) changed .subscribe ?_
    rintro t old' ⟨key, fits⟩
    have same : s = t := by rwa [old, Option.some.injEq] at old'
    subst same
    rw [queued] at fits
    obtain ⟨awake, unborn, silent, closedIffEmpty⟩ := fits
    exact ⟨key, by simp [silent], by simp [Roster.Told, Roster.subscribe, silent], closedIffEmpty,
      .inl ⟨rfl, awake⟩⟩
  | @endFeed p g ending canceled here running changed =>
    refine h.own here rfl (fun _ => rfl) changed (.retire_withdraw · _) ?_
    rintro s - ⟨key, fits⟩
    rw [running] at fits
    obtain ⟨number, told, closedIffEmpty, told'⟩ := fits
    rw [number]
    refine ⟨key, rfl, rfl, fun canceled => ?_⟩
    rcases told' with ⟨-, awake⟩ | ⟨-, -, empty⟩
    · rw [show p.canceled = true from canceled] at awake
      cases awake
    · exact empty
  | @close guard p ending canceled g sinks here leaving held changed =>
    refine h.own here rfl (fun _ => rfl) changed .shut ?_
    rintro s - ⟨key, fits⟩
    rw [leaving] at fits
    exact ⟨key, rfl, fits.2.1, rfl⟩
  | @finish p sinks ending canceled outcome here closing =>
    refine h.own (k := id) here rfl (fun _ => rfl) (.of_same rfl rfl fun _ _ => rfl) .refl ?_
    rintro s - ⟨key, fits⟩
    rw [closing] at fits
    exact ⟨key, fits⟩
  | @notice p here ready =>
    refine h.own (k := id) here rfl (fun _ => rfl) (.of_same rfl rfl fun _ _ => rfl) .refl ?_
    rintro s old fits
    obtain ⟨running, number, told, closedIffEmpty, empty⟩ := notified fits old ready
    refine ⟨fits.1, ?_⟩
    have fired : b.pullSignal p = .fired := by
      rw [pullSignal_eq old number told, if_pos empty]
    simp only [running, fired]
    exact ⟨number, told, closedIffEmpty, .inr ⟨trivial, by simp, empty⟩⟩

theorem move (h : b.Sound) (move : Move b b') : b'.PullsFit := by
  have later := (move.onward h.listed).later
  cases move with
  | quiet same => exact h.pullsFit.drift (.still same.rosters) later same.pulls
  | outer move =>
    refine h.pullsFit.drift move.drifted later ?_
    cases move <;> rfl
  | opening move => exact opening h move
  | departure move =>
    refine h.pullsFit.drift move.drifted later ?_
    cases move <;> rfl
  | pull move => exact h.pullsFit.pull move
  | stop move =>
    refine h.pullsFit.drift move.drifted later ?_
    cases move <;> rfl

end PullsFit

theorem Move.lines (move : Move b b') : b.pulls.map Pull.line <+: b'.pulls.map Pull.line := by
  cases move with
  | quiet same => exact same.lines ▸ List.prefix_rfl
  | outer move => cases move <;> exact List.prefix_rfl
  | opening move =>
    cases move with
    | grant =>
      simp only [startPull, finishOpen, setOpening, leave, List.map_append]
      exact List.prefix_append ..
    | _ => exact List.prefix_rfl
  | departure move => cases move <;> exact List.prefix_rfl
  | pull move => exact move.lines ▸ List.prefix_rfl
  | stop move => cases move <;> exact List.prefix_rfl

end Broker

end Fanout
