import Fanout.Proofs.Broker.CleanUp

namespace Fanout

def StopState.past : StopState → Bool
  | .closing _ | .ended _ => true
  | _ => false

namespace Registry

variable {g g' : Registry} {key : StreamKey} {i : Nat}

def Serves (g : Registry) (key : StreamKey) (i : Nat) : Prop :=
  ∃ s, g.roster? i = some s ∧ s.key = key

/-- The relay at `i` is closed, and no entry names it. -/
def Shut (g : Registry) (i : Nat) : Prop :=
  (∃ s, g.roster? i = some s ∧ s.closed = true) ∧ g.Unlisted i

theorem Serves.named (h : g.Serves key i) : g.Named key i := by
  obtain ⟨s, old, named⟩ := h
  exact .of_roster old named

theorem Serves.later (h : g.Serves key i) (later : g.Later g') : g'.Serves key i := by
  obtain ⟨s, old, named⟩ := h
  obtain ⟨s', new, goes⟩ := later i s old
  exact ⟨s', new, goes.key.trans named⟩

theorem Listed.serves (h : g.Listed) (found : g.find? key = some i) : g.Serves key i :=
  h.named (key, i) (h.find?_eq_some_iff.mp found)

theorem Listed.shut (h : g.Listed) (gone : g.find? key = none) (serves : g.Serves key i) :
    g.Shut i := by
  obtain ⟨s, old, rfl⟩ := serves
  refine ⟨⟨s, old, ?_⟩, ?_⟩
  · by_contra opened
    have entry := h.registered i s old (by simpa using opened)
    rw [h.find?_eq_some_iff.mpr entry] at gone
    cases gone
  · intro key found
    obtain ⟨t, there, rfl⟩ := h.serves found
    cases old.symm.trans there
    rw [gone] at found
    cases found

theorem mem_beginClose {now : Nat} {place : Nat × Nat} (member : place ∈ (g.beginClose i now).2) :
    place.1 = i := by
  unfold beginClose at member
  split at member
  · obtain ⟨id, -, rfl⟩ := List.mem_map.mp member
    rfl
  · cases member

end Registry

namespace Broker

variable {b b' m : Broker} {i j guard : Nat} {key : StreamKey} {s : Stop} {e : Event}

theorem shut_moves (moves : Moves b b') (h : b.Sound) (shut : b.registry.Shut j) :
    b'.registry.Shut j := by
  obtain ⟨⟨s, old, closed⟩, unlisted⟩ := shut
  obtain ⟨s', new, goes⟩ := (moves.onward h.listed).later j s old
  exact ⟨⟨s', new, goes.closed closed⟩, moves.unlisted h old unlisted⟩

theorem Sound.shut_after (h : b.Sound) (events : List Event) (shut : b.registry.Shut j) :
    (b.after events).registry.Shut j :=
  shut_moves (h.moves_after events) h shut

/-- Everything is left alone that is not under the key. -/
structure Spares (key : StreamKey) (b b' : Broker) : Prop where
  registry : Registry.Apart key b.registry b'.registry
  visitors : b'.visitors = b.visitors

namespace Spares

theorem refl (b : Broker) : Spares key b b := ⟨.refl _, rfl⟩

theorem setStop (h : Spares key b m) (i : Nat) (state : StopState) :
    Spares key b (m.setStop i state) := ⟨h.registry, h.visitors⟩

theorem leave (h : Spares key b m) (guard : Nat) : Spares key b (m.leave guard) :=
  ⟨h.registry, h.visitors⟩

end Spares

structure Passes (i : Nat) (key : StreamKey) (b' : Broker) : Prop where
  gone : b'.registry.find? key = none
  state : ∃ state, b'.stops[i]? = some ⟨key, state⟩ ∧ state.past = true ∧
    ∀ sinks, state = .closing sinks → ∀ place ∈ sinks, b'.registry.Serves key place.1

theorem getElem?_setStop (here : b.stops[i]? = some s) (state : StopState) :
    (b.setStop i state).stops[i]? = some ⟨s.key, state⟩ := by
  simp [setStop, here]

theorem enterStop_passes (listed : b.registry.Listed) (here : b.stops[i]? = some s) (guard : Nat) :
    Spares s.key b (b.enterStop i s.key guard) ∧ Passes i s.key (b.enterStop i s.key guard) := by
  unfold enterStop
  cases found : b.registry.find? s.key with
  | none =>
    simp only [Registry.remove, found]
    have ended := getElem?_setStop (b := b.leave guard) here (.ended false)
    refine ⟨((Spares.refl b).leave guard).setStop i _, found, _, ended, rfl, ?_⟩
    intro sinks same
    cases same
  | some relay =>
    simp only [Registry.remove, found]
    have serves := listed.serves found
    have erased := Registry.Apart.erase b.registry s.key
    have closed := erased.trans (.beginClose (erased.named serves.named) b.now)
    have gone : ((b.registry.erase s.key).beginClose relay b.now).1.find? s.key = none := by
      rw [Registry.find?, Registry.beginClose_table]
      exact Registry.find?_erase b.registry s.key
    have spares (state : StopState) : Spares s.key b (({ b with
        registry := ((b.registry.erase s.key).beginClose relay b.now).1 }.leave guard).setStop i
          state) := ⟨closed, rfl⟩
    have matched (state : StopState) := getElem?_setStop (b := { b with
      registry := ((b.registry.erase s.key).beginClose relay b.now).1 }.leave guard) here state
    split
    · refine ⟨spares _, gone, _, matched _, rfl, ?_⟩
      intro sinks same
      cases same
    · refine ⟨spares _, gone, _, matched _, rfl, ?_⟩
      intro sinks same place member
      cases same
      obtain rfl := Registry.mem_beginClose member
      have kept : (b.registry.erase s.key).Serves s.key place.1 := serves
      exact kept.later (Registry.beginClose_shutWhere place.1 b.now).later

/-- What the run of a stop comes to. -/
inductive Halts (b : Broker) (i : Nat) (s : Stop) : Broker → Prop
  | waits (locks : KeyLocks) (guard : Nat) :
      Halts b i s ({ b with locks := locks }.setStop i (.queued guard))
  | passes (locks : KeyLocks) (guard : Nat) :
      Halts b i s ({ b with locks := locks }.enterStop i s.key guard)
  | done (past : s.state.past = true) : Halts b i s (b.setStop i (.ended true))
  | still : Halts b i s b

theorem runStop_halts (here : b.stops[i]? = some s) : b.Halts i s (b.runStop i) := by
  unfold runStop
  rw [here]
  dsimp only
  cases matched : s.state with
  | starting =>
    rw [enter_eq]
    dsimp only
    split
    · exact .passes _ _
    · exact .waits _ _
  | queued guard => exact .passes b.locks guard
  | closing sinks => exact .done (by rw [matched]; rfl)
  | ended found => exact .still
  | abandoned => exact .still

theorem step_halts (here : b.stops[i]? = some s) : b.Halts i s (b.step (.run (.stop i))) := by
  simp only [step]
  split
  · exact runStop_halts here
  · exact .still

/-- The sinks that a stop waits for are sinks of its key. -/
def Aimed (b : Broker) : Prop :=
  ∀ (i : Nat) key sinks, b.stops[i]? = some ⟨key, .closing sinks⟩ →
    ∀ place ∈ sinks, b.registry.Serves key place.1

namespace Halts

theorem spares (h : b.Halts i s b') (listed : b.registry.Listed) (here : b.stops[i]? = some s) :
    Spares s.key b b' := by
  cases h with
  | waits locks guard => exact ⟨.refl _, rfl⟩
  | passes locks guard =>
    have entered := (enterStop_passes (b := { b with locks := locks }) listed here guard).1
    exact ⟨entered.registry, entered.visitors⟩
  | done past => exact (Spares.refl b).setStop i _
  | still => exact .refl b

theorem aim (h : b.Halts i s b') (listed : b.registry.Listed) (here : b.stops[i]? = some s) :
    ∃ state, b'.stops[i]? = some ⟨s.key, state⟩ ∧
      ∀ sinks, state = .closing sinks →
        s.state = .closing sinks ∨ ∀ place ∈ sinks, b'.registry.Serves s.key place.1 := by
  cases h with
  | waits locks guard =>
    refine ⟨_, getElem?_setStop (b := { b with locks := locks }) here _, ?_⟩
    intro sinks same
    cases same
  | passes locks guard =>
    obtain ⟨-, state, there, -, serves⟩ :=
      (enterStop_passes (b := { b with locks := locks }) listed here guard).2
    exact ⟨state, there, fun sinks same => .inr (serves sinks same)⟩
  | done past =>
    refine ⟨_, getElem?_setStop here _, ?_⟩
    intro sinks same
    cases same
  | still => exact ⟨s.state, here, fun sinks same => .inl same⟩

end Halts

theorem getElem?_abandonStop (here : b.stops[i]? = some s) :
    ∃ state, (b.abandonStop i).stops[i]? = some ⟨s.key, state⟩ ∧
      ∀ sinks, state ≠ .closing sinks := by
  unfold abandonStop
  rw [here]
  dsimp only
  cases matched : s.state with
  | ended found => exact ⟨.ended found, by rw [here, ← matched], by simp⟩
  | queued guard => exact ⟨_, getElem?_setStop (b := b.leave guard) here _, by simp⟩
  | closing sinks =>
    exact ⟨_, getElem?_setStop (b := { b with registry := b.registry.abandonClose sinks }) here _,
      by simp⟩
  | starting | abandoned => exact ⟨_, getElem?_setStop here _, by simp⟩

theorem Aimed.abandonStop_spares (h : b.Aimed) (here : b.stops[i]? = some s) :
    Spares s.key b (b.abandonStop i) := by
  refine ⟨?_, visitors_abandonStop b i⟩
  unfold abandonStop
  rw [here]
  dsimp only
  cases matched : s.state with
  | closing sinks =>
    have serves := h i s.key sinks (by rw [here, ← matched])
    exact .abandonClose fun place member => (serves place member).named
  | _ => exact .refl _

/-- The steps of a stop concern nothing but its own key. -/
theorem Sound.stop_spares (h : b.Sound) (aimed : b.Aimed) (own : e.ofStop i = true)
    (here : b.stops[i]? = some s) : Spares s.key b (b.step e) := by
  rcases Event.ofStop_iff.mp own with rfl | rfl
  · exact (step_halts here).spares h.listed here
  · exact aimed.abandonStop_spares here

theorem stop_absent (own : e.ofStop i = true) (absent : b.stops[i]? = none) : b.step e = b := by
  rcases Event.ofStop_iff.mp own with rfl | rfl
  · simp [step, isReady, absent]
  · simp [step, abandon, abandonStop, absent]

theorem Sound.stop_step (h : b.Sound) (e : Event) (here : b.stops[i]? = some s) :
    ∃ state, (b.step e).stops[i]? = some ⟨s.key, state⟩ := by
  cases own : e.ofStop i with
  | false =>
    rcases stops_foreign own with same | ⟨absent, -⟩
    · exact ⟨s.state, same.trans here⟩
    · cases here.symm.trans absent
  | true =>
    rcases Event.ofStop_iff.mp own with rfl | rfl
    · obtain ⟨state, there, -⟩ := (step_halts here).aim h.listed here
      exact ⟨state, there⟩
    · obtain ⟨state, there, -⟩ := getElem?_abandonStop here
      exact ⟨state, there⟩

namespace Aimed

theorem initial (config : BrokerConfig) (limits : Limits) : (Broker.new config limits).Aimed := by
  intro i key sinks here
  simp [new] at here

theorem step (h : b.Aimed) (sound : b.Sound) (e : Event) : (b.step e).Aimed := by
  intro i key sinks there place member
  have later := ((step_moves e sound.related).onward sound.listed).later
  cases own : e.ofStop i with
  | false =>
    rcases stops_foreign own with same | ⟨-, asked, new⟩
    · exact (h i key sinks (same.symm.trans there) place member).later later
    · cases (new.2).symm.trans there
  | true =>
    cases here : b.stops[i]? with
    | none =>
      rw [stop_absent own here, here] at there
      cases there
    | some s =>
      rcases Event.ofStop_iff.mp own with rfl | rfl
      · obtain ⟨state, new, aim⟩ := (step_halts here).aim sound.listed here
        cases there.symm.trans new
        rcases aim sinks rfl with closing | serves
        · exact (h i s.key sinks (by rw [here, ← closing]) place member).later later
        · exact serves place member
      · obtain ⟨state, new, ended⟩ := getElem?_abandonStop here
        cases there.symm.trans new
        exact absurd rfl (ended sinks)

theorem after (h : b.Aimed) (sound : b.Sound) (events : List Event) : (b.after events).Aimed := by
  induction events generalizing b with
  | nil => exact h
  | cons e rest ih => exact ih (h.step sound e) (sound.step e)

end Aimed

structure Pursues (b : Broker) (i : Nat) (key : StreamKey) (j : Nat) : Prop where
  serves : b.registry.Serves key j
  matched : ∃ state, b.stops[i]? = some ⟨key, state⟩ ∧ state ≠ .abandoned ∧
    (state.past = true → b.registry.Shut j)

namespace Pursues

theorem step (h : b.Pursues i key j) (sound : b.Sound) (kept : e ≠ .abandon (.stop i)) :
    (b.step e).Pursues i key j := by
  obtain ⟨serves, state, here, going, past⟩ := h
  have moves := step_moves e sound.related
  have serves' := serves.later (moves.onward sound.listed).later
  refine ⟨serves', ?_⟩
  cases own : e.ofStop i with
  | false =>
    rcases stops_foreign own with same | ⟨absent, -⟩
    · exact ⟨state, same.trans here, going, fun early => shut_moves moves sound (past early)⟩
    · cases here.symm.trans absent
  | true =>
    obtain rfl : e = .run (.stop i) := (Event.ofStop_iff.mp own).resolve_right kept
    have sound' := sound.step (.run (.stop i))
    have halts := step_halts here
    generalize b.step (.run (.stop i)) = b' at moves serves' sound' halts
    cases halts with
    | waits locks guard =>
      exact ⟨_, getElem?_setStop (b := { b with locks := locks }) here _, by simp, fun early => by
        cases early⟩
    | passes locks guard =>
      -- the key leads nowhere any more, so that no relay of the key is open
      obtain ⟨gone, state, new, passed, -⟩ :=
        (enterStop_passes (b := { b with locks := locks }) sound.listed here guard).2
      refine ⟨state, new, ?_, fun _ => sound'.listed.shut gone serves'⟩
      rintro rfl
      cases passed
    | done early =>
      exact ⟨_, getElem?_setStop here _, by simp, fun _ => shut_moves moves sound (past early)⟩
    | still => exact ⟨state, here, going, past⟩

theorem shut (h : b.Pursues i key j) (ended : b.taskEnded (.stop i) = true) :
    b.registry.Shut j := by
  obtain ⟨-, state, here, going, past⟩ := h
  apply past
  rw [taskEnded, here, Option.map_some] at ended
  cases state with
  | abandoned => exact absurd rfl going
  | ended found => rfl
  | starting | queued | closing => cases ended

end Pursues

/-- Whoever is still attached to a relay that is shut has the rest of a feed that has ended: the
pull is about to take the viewers off. -/
theorem Sound.leaving_of_shut (h : b.Sound) (shut : b.registry.Shut j) {id : Nat}
    (attached : b.attached (j, id) = true) : ∃ p ∈ b.pulls, p.relay = j ∧ p.returned = true := by
  obtain ⟨⟨s, old, closed⟩, -⟩ := shut
  obtain ⟨t, there, member⟩ := attached_iff.mp attached
  cases old.symm.trans there
  have watched : s.present ≠ [] := List.ne_nil_of_mem member
  by_cases pulled : b.Pulled j
  · obtain ⟨p, pull, rfl⟩ := List.mem_map.mp pulled
    refine ⟨p, pull, rfl, ?_⟩
    obtain ⟨t, same, -, fits⟩ := h.pullsFit.relay pull
    cases old.symm.trans same
    cases matched : p.state with
    | starting | queued guard =>
      rw [matched] at fits
      exact absurd (fits.2.2.2.mp closed) watched
    | running =>
      rw [matched] at fits
      exact absurd (fits.2.2.1.mp closed) watched
    | leaving | closing | ended => rw [Pull.returned, matched]
  -- without a pull it would be the viewer of an open that waits for units at a relay that is open
  · obtain ⟨i, r, guard, place, a, here, rfl⟩ := h.openingsFit.unpulled j s old watched pulled
    obtain ⟨t, same, awaits⟩ := h.openingsFit.acquiring i r guard place a here
    cases old.symm.trans same
    rcases awaits.alone with ⟨opened, -⟩ | ⟨-, empty, -⟩
    · rw [opened] at closed
      cases closed
    · exact absurd empty watched

end Broker

end Fanout
