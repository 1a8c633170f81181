import Fanout.Proofs.Broker.Halt
import Fanout.Proofs.Broker.Owner
import Fanout.Proofs.Broker.Ready
import Fanout.Web.Answer

namespace Fanout.Broker

variable {b b' m : Broker} {url : String} {n i j : Nat} {key : StreamKey} {e : Event}

inductive Clears (url : String) (n : Nat) (b : Broker) : Broker → Prop
  | own {key : StreamKey} {b' : Broker} (belongs : key.belongsTo url = true)
      (spares : Spares key b b') : Clears url n b b'
  | other {e : Event} (uncalled : e.uncalled = true) (foreign : ∀ i, n ≤ i → e.ofStop i = false) :
      Clears url n b (b.step e)

abbrev Clearing (url : String) (n : Nat) : Broker → Broker → Prop :=
  Relation.ReflTransGen (Clears url n)

/-- The stops from the place `n` on are stops of streams at the address. -/
structure Staffed (url : String) (n : Nat) (b : Broker) : Prop where
  sound : b.Sound
  minded : b.Minded
  aimed : b.Aimed
  long : n ≤ b.stops.length
  keys : ∀ (i : Nat) s, n ≤ i → b.stops[i]? = some s → s.key.belongsTo url = true

namespace Staffed

theorem step (h : b.Staffed url n) (e : Event)
    (asks : ∀ key, e = .stop key → key.belongsTo url = true) : (b.step e).Staffed url n where
  sound := h.sound.step e
  minded := h.minded.step h.sound e
  aimed := h.aimed.step h.sound e
  long := by
    cases n with
    | zero => exact Nat.zero_le _
    | succ n =>
      obtain ⟨state, there⟩ := h.sound.stop_step e (List.getElem?_eq_getElem h.long)
      exact (List.getElem?_eq_some_iff.mp there).1
  keys i s late there := by
    cases here : b.stops[i]? with
    | some old =>
      obtain ⟨state, same⟩ := h.sound.stop_step e here
      cases there.symm.trans same
      exact h.keys i old late here
    | none =>
      cases own : e.ofStop i with
      | true =>
        rw [stop_absent own here, here] at there
        cases there
      | false =>
        rcases stops_foreign own with same | ⟨-, key, asked, new⟩
        · rw [same, here] at there
          cases there
        · cases there.symm.trans new
          exact asks key asked

theorem clears_own (h : b.Staffed url n) (late : n ≤ i) (own : e.ofStop i = true) :
    Clearing url n b (b.step e) := by
  cases here : b.stops[i]? with
  | none => rw [stop_absent own here]
  | some s => exact .single (.own (h.keys i s late here) (h.sound.stop_spares h.aimed own here))

theorem clears (h : b.Staffed url n) (uncalled : e.uncalled = true) :
    Clearing url n b (b.step e) := by
  by_cases own : ∃ i, n ≤ i ∧ e.ofStop i = true
  · obtain ⟨i, late, own⟩ := own
    exact h.clears_own late own
  · refine .single (.other uncalled fun i late => ?_)
    rw [Bool.eq_false_iff]
    exact fun mine => own ⟨i, late, mine⟩

end Staffed

theorem Staffed.serves (h : b.Staffed url n) (steps : machine.Steps b b') :
    ∃ events, b' = b.after events ∧ Clearing url n b b' ∧ b'.Staffed url n ∧
      ∀ e ∈ events, e.uncalled = true := by
  induction steps with
  | refl => exact ⟨[], rfl, .refl, h, by simp⟩
  | tail _ last ih =>
    -- nobody calls, so the stops in question stay those that were asked for
    obtain ⟨events, same, clearing, staffed, uncalled⟩ := ih
    obtain ⟨e, calm, rfl⟩ := event_of_machine staffed.minded.holdsAttached last
    refine ⟨events ++ [e], by simp [after_append, same], clearing.trans (staffed.clears calm),
      staffed.step e ?_, ?_⟩
    · rintro key rfl
      cases calm
    · intro e' member
      rcases List.mem_append.mp member with earlier | last
      · exact uncalled e' earlier
      · exact List.mem_singleton.mp last ▸ calm

theorem Pursues.after (h : b.Pursues i key j) (sound : b.Sound) {events : List Event}
    (uncalled : ∀ e ∈ events, e.uncalled = true) : (b.after events).Pursues i key j := by
  induction events generalizing b with
  | nil => exact h
  | cons e rest ih =>
    have kept : e ≠ .abandon (.stop i) := by
      rintro rfl
      cases uncalled _ List.mem_cons_self
    exact ih (h.step sound kept) (sound.step e) fun e' member =>
      uncalled e' (List.mem_cons_of_mem _ member)

theorem Staffed.stop (h : b.Staffed url n) (belongs : key.belongsTo url = true)
    (steps : machine.Steps (b.step (.stop key)) m) :
    (∃ events, m = b.after events) ∧ Clearing url n b m ∧ m.Staffed url n ∧
      (m.taskEnded (.stop b.stops.length) = true →
        ∀ j, b.registry.Serves key j → m.registry.Shut j) := by
  have asked := h.step (.stop key) fun key' same => by
    cases same
    exact belongs
  have first : Clearing url n b (b.step (.stop key)) := .single (.own belongs ⟨.refl _, rfl⟩)
  obtain ⟨events, rfl, waited, staffed, uncalled⟩ := asked.serves steps
  refine ⟨⟨.stop key :: events, rfl⟩, first.trans waited, staffed, fun ended j serves => ?_⟩
  have starting : (b.step (.stop key)).stops[b.stops.length]? = some ⟨key, .starting⟩ := by
    simp [Broker.step, requestStop]
  have pursued : (b.step (.stop key)).Pursues b.stops.length key j := by
    refine ⟨serves, .starting, starting, by simp, fun early => ?_⟩
    cases early
  exact (pursued.after asked.sound uncalled).shut ended

def awaitStop (b : Broker) (key : StreamKey) : Broker :=
  (machine.await (·.taskEnded (.stop b.stops.length)) (b.step (.stop key))).1

theorem stopAll_cons (b : Broker) (key : StreamKey) (rest : List StreamKey) (count : Nat) :
    Web.stopAll (key :: rest) b count =
      if (b.awaitStop key).taskEnded (.stop b.stops.length) then
        Web.stopAll rest (b.awaitStop key)
          (if (b.awaitStop key).stopFound b.stops.length then count + 1 else count)
      else ((b.awaitStop key).step (.abandon (.stop b.stops.length)), none) := rfl

/-- What has come of the stops of some keys, one after the other. -/
structure Stopped (url : String) (n : Nat) (keys : List StreamKey) (count : Nat) (b : Broker)
    (answer : Broker × Option Nat) : Prop where
  run : ∃ events, answer.1 = b.after events
  clearing : Clearing url n b answer.1
  shut : answer.2 ≠ none → ∀ key ∈ keys, ∀ j, b.registry.Serves key j → answer.1.registry.Shut j
  counted : ∀ total, answer.2 = some total → total ≤ count + keys.length

theorem Staffed.stopAll (h : b.Staffed url n) {keys : List StreamKey}
    (belongs : ∀ key ∈ keys, key.belongsTo url = true) (count : Nat) :
    Stopped url n keys count b (Web.stopAll keys b count) := by
  induction keys generalizing b count with
  | nil =>
    refine ⟨⟨[], rfl⟩, .refl, fun _ key member => absurd member List.not_mem_nil, ?_⟩
    rintro total same
    cases same
    exact Nat.le_refl _
  | cons key rest ih =>
    have steps : machine.Steps (b.step (.stop key)) (b.awaitStop key) := Machine.await_steps _ _
    obtain ⟨⟨events, run⟩, clearing, staffed, shut⟩ := h.stop (belongs key List.mem_cons_self) steps
    have later := ((h.sound.moves_after events).onward h.sound.listed).later
    rw [← run] at later
    rw [stopAll_cons]
    generalize b.awaitStop key = m at run clearing staffed shut later
    split
    -- what this stop has shut stays shut while the others go on
    · rename_i ended
      have others := ih staffed (fun key' member => belongs key' (List.mem_cons_of_mem _ member))
        (if m.stopFound b.stops.length then count + 1 else count)
      obtain ⟨more, run'⟩ := others.run
      refine ⟨⟨events ++ more, by rw [after_append, ← run, run']⟩,
        clearing.trans others.clearing, fun answered key' member j serves => ?_,
        fun total same => ?_⟩
      · rcases List.mem_cons.mp member with rfl | member
        · rw [run']
          exact staffed.sound.shut_after more (shut ended j serves)
        · exact others.shut answered key' member j (serves.later later)
      · have bound := others.counted total same
        rw [List.length_cons]
        split at bound
        · omega
        · omega
    -- the wait was in vain, and the stop is given up together with the request
    · have given := staffed.clears_own h.long (e := .abandon (.stop b.stops.length))
        (by simp [Event.ofStop])
      refine ⟨⟨events ++ [.abandon (.stop b.stops.length)], ?_⟩, clearing.trans given, ?_, ?_⟩
      · rw [after_append, ← run, after_cons, after_nil]
      · exact fun answered => absurd rfl answered
      · intro total same
        cases same

end Fanout.Broker
