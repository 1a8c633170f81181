import Fanout.Proofs.Broker.Effect

namespace Fanout.Broker

variable {b b' : Broker} {i j k guard : Nat} {r : Request} {place : SinkPlace} {a : Acquisition}
  {key : StreamKey} {error : OpenError} {s : Roster}

/-- No pull of the key can be joined. -/
def Unjoinable (b : Broker) (key : StreamKey) : Prop :=
  ∀ k, (key, k) ∈ b.pulls.map Pull.line → ∀ s, b.roster? k = some s → s.closed = true

theorem Unjoinable.later (h : b.Unjoinable key) (pullsFit : b.PullsFit)
    (later : b.registry.Later b'.registry)
    (lines : ∀ k, (key, k) ∈ b'.pulls.map Pull.line → (key, k) ∈ b.pulls.map Pull.line) :
    b'.Unjoinable key := by
  intro k line s' new
  obtain ⟨s, old, -⟩ := pullsFit.roster_of_line (lines k line)
  obtain ⟨s'', new', goes⟩ := later k s old
  rw [show b'.roster? k = some s'' from new', Option.some.injEq] at new
  exact new ▸ goes.closed (h k (lines k line) s old)

/-- Whoever comes next under the key is the first, at the relay `j` if that is still registered. -/
structure Vacated (b : Broker) (key : StreamKey) (j : Nat) : Prop where
  relay : ∃ s, b.roster? j = some s ∧ s.key = key
  pulls : b.Unjoinable key
  entry : ∀ k, b.registry.find? key = some k → k = j ∧ ∀ s, b.roster? j = some s → s.present = []

namespace Sound

theorem unjoinable_of_acquiring (h : b.Sound) (emptied : b.shutdown = true → b.registry.table = [])
    (here : b.openings[i]? = some ⟨r, .acquiring guard place a⟩) : b.Unjoinable r.key := by
  intro k line s old
  cases down : b.shutdown with
  | false => exact h.closed_of_acquiring down here line old
  | true =>
    by_contra opened
    have listed := h.listed.registered k s old (by simpa using opened)
    rw [emptied down] at listed
    cases listed

theorem entry_of_acquiring (h : b.Sound) (emptied : b.shutdown = true → b.registry.table = [])
    (here : b.openings[i]? = some ⟨r, .acquiring guard place a⟩)
    (entry : b.registry.find? r.key = some k) : k = place.1 := by
  obtain ⟨t, mine, waits⟩ := h.openingsFit.acquiring i r guard place a here
  have member := h.listed.find?_eq_some_iff.mp entry
  rcases waits.alone with ⟨opened, -⟩ | ⟨-, -, down⟩
  · have listed := h.listed.registered _ t mine opened
    rw [waits.key] at listed
    exact h.listed.eq_of_key member listed
  · rw [emptied down] at member
    cases member

theorem vacated_of_acquiring (h : b.Sound) (emptied : b.shutdown = true → b.registry.table = [])
    (here : b.openings[i]? = some ⟨r, .acquiring guard place a⟩) {f : Roster → Roster}
    (changed : Registry.Changed place.1 f b.registry b'.registry) (pulls : b'.pulls = b.pulls)
    (shrinks : ∀ s : Roster, s.Shrinks (f s)) (empty : ∀ s, b.Awaits r place s → (f s).present = []) :
    b'.Vacated r.key place.1 := by
  obtain ⟨t, mine, waits⟩ := h.openingsFit.acquiring i r guard place a here
  refine ⟨⟨f t, changed.self mine, (shrinks t).later.key.trans waits.key⟩, ?_, fun k entry => ?_⟩
  · exact (h.unjoinable_of_acquiring emptied here).later h.pullsFit
      (changed.later fun s _ => (shrinks s).later) fun k line => pulls ▸ line
  · have listed := changed.listed h.listed fun s _ => (shrinks s).later
    have member := changed.sub.subset (listed.find?_eq_some_iff.mp entry)
    have same := h.entry_of_acquiring emptied here (h.listed.find?_eq_some_iff.mpr member)
    refine ⟨same, fun s' new => ?_⟩
    rw [show b'.roster? place.1 = some (f t) from changed.self mine, Option.some.injEq] at new
    exact new ▸ empty t waits

end Sound

theorem Vacated.kept (h : b.Vacated key j) (sound : b.Sound) (sound' : b'.Sound)
    (later : b.registry.Later b'.registry)
    (relay : ∀ s, b.roster? j = some s → s.key = key → ∃ s', b'.roster? j = some s' ∧ s.Shrinks s')
    (entries : ∀ k, (key, k) ∈ b'.registry.table → (key, k) ∈ b.registry.table)
    (lines : ∀ k, (key, k) ∈ b'.pulls.map Pull.line → (key, k) ∈ b.pulls.map Pull.line) :
    b'.Vacated key j := by
  obtain ⟨t, old, named⟩ := h.relay
  obtain ⟨t', new, shrinks⟩ := relay t old named
  refine ⟨⟨t', new, shrinks.later.key.trans named⟩, h.pulls.later sound.pullsFit later lines,
    fun k found => ?_⟩
  have member := entries k (sound'.listed.find?_eq_some_iff.mp found)
  obtain ⟨same, empty⟩ := h.entry k (sound.listed.find?_eq_some_iff.mpr member)
  refine ⟨same, fun s' there => ?_⟩
  rw [new, Option.some.injEq] at there
  exact there ▸ shrinks.empty (empty t old)

theorem Vacated.move (h : b.Vacated r.key j) (sound : b.Sound) (sound' : b'.Sound)
    (here : b.openings[i]? = some ⟨r, .disposing guard place error⟩) (move : Move b b') :
    b'.Vacated r.key j := by
  have mine : b.stake? (.opening i) = some ⟨r.key, guard, true⟩ := stake?_of_opening here
  -- whoever is seated or starts a pull has the lock of the key, and this lock belongs to the open
  have foreign {i' : Nat} {s : Stake} (staked : b.stake? (.opening i') = some s)
      (held : b.locks.holds s.guard = true) (differs : i' ≠ i) : s.key ≠ r.key := fun same =>
    differs (BrokerTask.opening.inj (sound.locked.exclusive staked mine same held
      (sound.locked.inside _ _ mine rfl)))
  have later := (move.onward sound.listed).later
  cases move.effect sound.listed with
  | fade registry lines =>
    exact h.kept sound sound' later (fun s old _ => registry.rosters j s old)
      (fun k => (registry.table.subset ·)) fun k line => lines ▸ line
  | @seat i' guard' r' place' first there held up seat pulls =>
    have staked : b.stake? (.opening i') = some ⟨r'.key, guard', false⟩ := stake?_of_opening there
    have other : r'.key ≠ r.key := by
      refine foreign staked held ?_
      rintro rfl
      rw [here] at there
      cases there
    refine h.kept sound sound' later (fun s old named => ?_) (fun k member => ?_)
      fun k line => pulls ▸ line
    · obtain ⟨s', new, rfl | ⟨key, -⟩⟩ := seat.forth old
      · exact ⟨s', new, .refl s'⟩
      · exact absurd (key.symm.trans named) other
    · cases seat with
      | found s old named opened number alone rosters table => exact table ▸ member
      | made missing number alone closed rosters table =>
        rw [table, List.mem_append, List.mem_singleton] at member
        rcases member with old | new
        · exact (Registry.mem_erase.mp old).1
        · exact absurd (congrArg Prod.fst new).symm other
  | @start i' guard' r' place' a' there registry lines =>
    have staked : b.stake? (.opening i') = some ⟨r'.key, guard', true⟩ := stake?_of_opening there
    have other : r'.key ≠ r.key := by
      refine foreign staked (sound.locked.inside _ _ staked rfl) ?_
      rintro rfl
      rw [here] at there
      cases there
    refine h.kept sound sound' later (fun s old _ => ⟨s, ?_, .refl s⟩) (fun k => registry ▸ id)
      fun k line => ?_
    · rw [roster?, registry]
      exact old
    · rw [lines, List.mem_append, List.mem_singleton] at line
      rcases line with old | new
      · exact old
      · exact absurd (congrArg Prod.fst new).symm other

theorem Move.disposes (move : Move b b')
    (new : b'.openings[i]? = some ⟨r, .disposing guard place error⟩) :
    b.openings[i]? = some ⟨r, .disposing guard place error⟩ ∨
      (∃ a, b.openings[i]? = some ⟨r, .acquiring guard place a⟩ ∧ b.Denied a b'.limits error) ∧
        Registry.Changed place.1 (·.unseat place.2) b.registry b'.registry ∧
          b'.pulls = b.pulls := by
  cases move with
  | quiet same => exact .inl (same.openings ▸ new)
  | outer move =>
    rcases move.openings new with old | same | same
    · exact .inl old
    · cases same
    · cases same
  | opening move =>
    cases move with
    | deny here denied changed =>
      rcases openings_cases here new with ⟨rfl, rfl, same⟩ | ⟨-, old⟩
      · cases same
        exact .inr ⟨⟨_, here, denied⟩, changed, rfl⟩
      · exact .inl old
    | refuse error here | queue here up | turnAway here | arrive deadline here held up seated
    | join here held up seated | wait here poll | grant here up poll
    | denyGone here denied gone changed | dispose here changed =>
      rcases openings_cases here new with ⟨-, -, same⟩ | ⟨-, old⟩
      · cases same
      · exact .inl old
  | departure move => cases move <;> exact .inl new
  | pull move => cases move <;> exact .inl new
  | stop move => cases move <;> exact .inl new

theorem Move.shutdown_cases (move : Move b b') :
    b'.shutdown = b.shutdown ∨ b'.shutdown = true ∧ b'.registry.table = [] := by
  cases move with
  | quiet same => exact .inl same.shutdown
  | outer move =>
    cases move with
    | shutDown => exact .inr ⟨rfl, Registry.stopAll_table _⟩
    | _ => exact .inl rfl
  | opening move => cases move <;> exact .inl rfl
  | departure move => cases move <;> exact .inl rfl
  | pull move => cases move <;> exact .inl rfl
  | stop move => cases move <;> exact .inl rfl

theorem Move.emptied (move : Move b b') (sound : b.Sound)
    (emptied : b.shutdown = true → b.registry.table = []) (down : b'.shutdown = true) :
    b'.registry.table = [] := by
  rcases move.shutdown_cases with same | ⟨-, cleared⟩
  · have before := emptied (same.symm.trans down)
    cases move.effect sound.listed with
    | fade registry lines => exact List.sublist_nil.mp (before ▸ registry.table)
    | seat here held up seat pulls =>
      rw [same, up] at down
      cases down
    | start here registry lines => exact registry ▸ before
  · exact cleared

/-- The table is empty once the broker is shut down, and open refusals have vacated their keys. -/
structure Tidy (b : Broker) : Prop where
  sound : b.Sound
  emptied : b.shutdown = true → b.registry.table = []
  disposing : ∀ (i : Nat) r guard place error,
    b.openings[i]? = some ⟨r, .disposing guard place error⟩ → b.Vacated r.key place.1

namespace Tidy

theorem initial (config : BrokerConfig) (limits : Limits) : (Broker.new config limits).Tidy :=
  ⟨.initial config limits, fun _ => rfl, by simp [new]⟩

theorem move (h : b.Tidy) (move : Move b b') : b'.Tidy where
  sound := h.sound.move move
  emptied := move.emptied h.sound h.emptied
  disposing i r guard place error here := by
    rcases move.disposes here with old | ⟨⟨a, old, -⟩, changed, pulls⟩
    · exact (h.disposing i r guard place error old).move h.sound (h.sound.move move) old move
    · exact h.sound.vacated_of_acquiring h.emptied old changed pulls (fun s => .unseat s _)
        fun s waits => waits.unseat_empty

theorem after (h : b.Tidy) (events : List Event) : (b.after events).Tidy := by
  have moves := h.sound.moves_after events
  generalize b.after events = b' at moves
  induction moves with
  | refl => exact h
  | tail _ move ih => exact ih.move move

end Tidy

end Fanout.Broker
