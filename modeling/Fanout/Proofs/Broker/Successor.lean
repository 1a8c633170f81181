import Fanout.Proofs.Broker.Unanswered

namespace Fanout

def OpenState.place? : OpenState → Option SinkPlace
  | .acquiring _ place _ | .disposing _ place _ => some place
  | _ => none

namespace Broker

variable {b b' m m' : Broker} {i j : Nat} {r : Request} {place : SinkPlace} {k : Nat} {e : Event}
  {key : StreamKey} {state : OpenState}

theorem Vacated.shrunk (h : b.Vacated key j) (sound : b.Sound) (move : Move b b')
    (registry : b.registry.Shrinks b'.registry)
    (lines : b'.pulls.map Pull.line = b.pulls.map Pull.line) : b'.Vacated key j :=
  h.kept sound (sound.move move) (move.onward sound.listed).later
    (fun s old _ => registry.rosters j s old) (fun _ => (registry.table.subset ·))
    fun _ line => lines ▸ line

theorem OuterMove.vacated (move : m.OuterMove m') (sound : m.Sound) (h : m.Vacated key j) :
    m'.Vacated key j :=
  h.shrunk sound (.outer move) move.shrinks (by cases move <;> rfl)

theorem Quiet.vacated (same : m.Quiet m') (sound : m.Sound) (h : m.Vacated key j) :
    m'.Vacated key j :=
  h.shrunk sound (.quiet same) (.of_same same.rosters same.table) same.lines

theorem Tidy.vacated_of_dropped (h : b.Tidy) (here : b.openings[i]? = some ⟨r, state⟩)
    (seated : state.place? = some place) :
    (b.step (.abandon (.opening i))).Vacated r.key place.1 := by
  cases state with
  | acquiring guard seat a =>
    obtain rfl : seat = place := Option.some.inj seated
    obtain ⟨g, same, changed⟩ := abandonOpen_acquiring here rfl
    have dropped : b.step (.abandon (.opening i)) = _ := same
    rw [dropped]
    exact h.sound.vacated_of_acquiring h.emptied here changed rfl (fun s => .depart s _)
      fun s waits => waits.depart_empty
  | disposing guard seat error =>
    obtain rfl : seat = place := Option.some.inj seated
    have vacated := h.sound.along (.abandon (.opening i))
      (P := fun m => m.Sound ∧ m.Vacated r.key seat.1)
      ⟨h.sound, h.disposing i r guard seat error here⟩
      (fun m m' same ⟨sound, vacated⟩ => ⟨sound.move (.quiet same), same.vacated sound vacated⟩)
      (fun m m' sound move ⟨_, vacated⟩ =>
        ⟨sound.move (.outer move), OuterMove.vacated move sound vacated⟩)
    exact vacated.2
  | starting | queued guard | refused error | opened seat k | abandoned => cases seated

/-- A viewer has come to a relay where nobody else is, and the relay has been given its pull. -/
structure Begins (key : StreamKey) (place : SinkPlace) (b m : Broker) : Prop where
  lines : m.pulls.map Pull.line = b.pulls.map Pull.line ++ [(key, place.1)]
  alone : ∃ s, m.roster? place.1 = some s ∧ s.present = [place.2]

def Comes (i : Nat) (r : Request) (b m : Broker) : Prop :=
  (¬ m.Answered i ∧ (∀ o, m.openings[i]? = some o → o.request = r) ∧ m.Unjoinable r.key ∧
      m.pulls.map Pull.line = b.pulls.map Pull.line) ∨
    ∃ place k, m.openings[i]? = some ⟨r, .opened place k⟩ ∧ Begins r.key place b m

theorem Unjoinable.not_join {guard : Nat} {g : Registry} (unjoinable : m.Unjoinable r.key) (h : m.Sound)
    (here : m.openings[i]? = some ⟨r, .queued guard⟩) (held : m.locks.holds guard = true)
    (seat : m.registry.Seat r.key g place false) : False := by
  obtain ⟨p, member, relay⟩ := List.mem_map.mp (h.pulled_of_join here held seat)
  cases seat with
  | found s old named opened =>
    obtain ⟨s', same, fits⟩ := h.pullsFit.relay member
    rw [relay, show m.roster? place.1 = some s from old, Option.some.injEq] at same
    subst same
    have line : (r.key, place.1) ∈ m.pulls.map Pull.line := by
      rw [← named, ← fits.1, ← relay]
      exact List.mem_map_of_mem member
    rw [unjoinable place.1 line s old] at opened
    cases opened
  | made missing number alone => cases alone

theorem OpenMove.comes (move : m.OpenMove i m') (h : m.Sound) (comes : Comes i r b m) :
    Comes i r b m' := by
  rcases comes with ⟨-, request, unjoinable, lines⟩ | ⟨place, k, answered, -⟩
  · have later := ((Move.opening move).onward h.listed).later
    have waits {o : Opening} {state : OpenState} (here : m.openings[i]? = some o)
        (pulls : m'.pulls = m.pulls) (set : m'.openings = (m.setOpening i state).openings)
        (unanswered : ∀ place k, state ≠ .opened place k) : Comes i r b m' := by
      have opening := opening_of_set here set
      refine .inl ⟨fun ⟨r', place, k, answered⟩ => ?_, fun o' there => ?_,
        unjoinable.later h.pullsFit later fun _ line => pulls ▸ line, by rw [pulls, lines]⟩
      · rw [opening, Option.some.injEq, Opening.mk.injEq] at answered
        exact unanswered place k answered.2
      · rw [opening, Option.some.injEq] at there
        exact there ▸ request o here
    cases move with
    | refuse error here => exact waits here rfl rfl fun _ _ => nofun
    | queue here up => exact waits here rfl rfl fun _ _ => nofun
    | turnAway here => exact waits here rfl rfl fun _ _ => nofun
    | arrive deadline here held up seated => exact waits here rfl rfl fun _ _ => nofun
    | wait here poll => exact waits here rfl rfl fun _ _ => nofun
    | deny here denied changed => exact waits here rfl rfl fun _ _ => nofun
    | denyGone here denied gone changed => exact waits here rfl rfl fun _ _ => nofun
    | dispose here changed => exact waits here rfl rfl fun _ _ => nofun
    | join here held up seated =>
      obtain rfl := request _ here
      exact (unjoinable.not_join h here held (seated.seat h.listed)).elim
    | @grant guard r' place a limits held here up poll =>
      obtain rfl : r' = r := request _ here
      obtain ⟨s, old, awaits⟩ := h.openingsFit.acquiring i r' guard place a here
      have alone : s.present = [place.2] := by
        rcases awaits.alone with ⟨-, alone⟩ | ⟨-, -, down⟩
        · exact alone
        · rw [up] at down
          cases down
      exact .inr ⟨_, _, opening_of_set here rfl, List.map_append.trans (congrArg (· ++ _) lines),
        s, old, alone⟩
  · exact absurd ⟨r, k, answered⟩ (OpenMove.not_serves move)

theorem Quiet.comes (same : m.Quiet m') (comes : Comes i r b m) : Comes i r b m' := by
  have rosters (j : Nat) : m'.roster? j = m.roster? j := congrFun same.rosters j
  rcases comes with ⟨unanswered, request, unjoinable, lines⟩ | ⟨place, k, answered, lines, s, old, alone⟩
  · refine .inl ⟨?_, ?_, ?_, same.lines.trans lines⟩
    · rintro ⟨r', place, k, there⟩
      exact unanswered ⟨r', place, k, same.openings ▸ there⟩
    · intro o there
      exact request o (same.openings ▸ there)
    · intro k line s old
      exact unjoinable k (same.lines ▸ line) s (rosters k ▸ old)
  · have there : m'.roster? place.1 = some s := (rosters place.1).trans old
    exact .inr ⟨place, k, same.openings ▸ answered, same.lines.trans lines, s, there, alone⟩

/-- Under a key none of whose pulls can be joined, whoever is answered comes first and has its own
pull. -/
theorem Sound.begins (h : m.Sound) (unjoinable : m.Unjoinable r.key) (unanswered : ¬ m.Answered i)
    (answered : (m.step e).openings[i]? = some ⟨r, .opened place k⟩) :
    Begins r.key place m (m.step e) := by
  by_cases own : e = .run (.opening i)
  · subst own
    have request (o : Opening) (here : m.openings[i]? = some o) : o.request = r := by
      obtain ⟨state, there, -⟩ := h.opening_step (.run (.opening i)) here
      rw [answered, Option.some.injEq, Opening.mk.injEq] at there
      exact there.1.symm
    have comes := h.along (.run (.opening i)) (P := Comes i r m)
      (.inl ⟨unanswered, request, unjoinable, rfl⟩)
      (fun _ _ same comes => same.comes comes)
      (fun _ _ sound move comes => OpenMove.comes move sound comes)
    rcases comes with ⟨still, -⟩ | ⟨place', k', there, begins⟩
    · exact absurd ⟨r, place, k, answered⟩ still
    · rw [answered, Option.some.injEq, Opening.mk.injEq] at there
      cases there.2
      exact begins
  · exact absurd ⟨r, place, k, h.answered_back own answered⟩ unanswered

end Broker

end Fanout
