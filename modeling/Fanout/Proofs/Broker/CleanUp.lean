import Fanout.Proofs.Broker.Change
import Fanout.Proofs.Broker.Effect
import Fanout.Proofs.Broker.Failures
import Mathlib.Data.List.Induction

namespace Fanout

open Fanout.Units

namespace Broker

variable {b b' : Broker} {i j : Nat} {p q : Pull} {e : Event} {s : Roster} {key : StreamKey}
  {ending : Ending} {canceled : Bool}

/-- A relay gets its entry when it is made, and at no other time. -/
theorem Move.entry (move : Move b b') (h : b.Sound) (old : b.roster? j = some s)
    (entry : (key, j) ∈ b'.registry.table) : (key, j) ∈ b.registry.table := by
  cases move.effect h.listed with
  | fade registry lines => exact registry.table.subset entry
  | seat here held up seat pulls =>
    cases seat with
    | found t old named opened number alone rosters table => rwa [table] at entry
    | made missing number alone closed rosters table =>
      rw [table, List.mem_append, List.mem_singleton] at entry
      rcases entry with earlier | new
      · exact (Registry.mem_erase.mp earlier).1
      · cases new
        cases missing.symm.trans old
  | start here registry lines => rwa [registry] at entry

theorem Moves.entry (moves : Moves b b') (h : b.Sound) (old : b.roster? j = some s)
    (entry : (key, j) ∈ b'.registry.table) : (key, j) ∈ b.registry.table := by
  induction moves with
  | refl => exact entry
  | tail earlier move ih =>
    obtain ⟨t, there, -⟩ := (Moves.onward earlier h.listed).later j s old
    exact ih (move.entry (h.moves earlier) there entry)

theorem Moves.unlisted (moves : Moves b b') (h : b.Sound) (old : b.roster? j = some s)
    (unlisted : b.registry.Unlisted j) : b'.registry.Unlisted j := by
  intro key found
  have entry := (h.moves moves).listed.find?_eq_some_iff.mp found
  exact unlisted key (h.listed.find?_eq_some_iff.mpr (moves.entry h old entry))

/-- A pull that has taken its relay out of the table leaves it without an entry. -/
def Cleared (b : Broker) : Prop :=
  ∀ (i : Nat) p, b.pulls[i]? = some p → p.cleared = true → b.registry.Unlisted p.relay

theorem Cleared.step (cleared : b.Cleared) (h : b.Sound) (e : Event) : (b.step e).Cleared := by
  intro i q there gone
  have moves := step_moves e h.related
  cases here : b.pulls[i]? with
  | none =>
    rw [Pull.cleared, h.newborn e here there] at gone
    cases gone
  | some p =>
    obtain ⟨q', there', line⟩ := Moves.line moves here
    cases there.symm.trans there'
    have relay : q.relay = p.relay := congrArg Prod.snd line
    obtain ⟨s, old, -⟩ := h.pullsFit.fits i p here
    have stays (before : p.cleared = true) : (b.step e).registry.Unlisted p.relay :=
      Moves.unlisted moves h old (cleared i p here before)
    rw [relay]
    cases h.change e here there with
    | kept state =>
      rw [Pull.cleared, state] at gone
      exact stays gone
    | continues before going =>
      rw [Pull.returned_of_cleared gone] at going
      cases going
    | concludes _ _ own before lasts concludes counted released unlisted =>
      rcases unlisted gone with before | unlisted
      · exact stays before
      · exact unlisted

theorem Cleared.after (cleared : b.Cleared) (h : b.Sound) (events : List Event) :
    (b.after events).Cleared := by
  induction events generalizing b with
  | nil => exact cleared
  | cons e rest ih => exact ih (cleared.step h e) (h.step e)

/-- In the course of the events the feed of the pull at `i` has ended so. -/
def FeedEnded (b : Broker) (i : Nat) (events : List Event) (ending : Ending) (canceled : Bool) :
    Prop :=
  ∃ before e rest p, events = before ++ e :: rest ∧ (b.after before).pulls[i]? = some p ∧
    (b.after before).Ends i p e ending canceled

theorem FeedEnded.later {events : List Event} (h : b.FeedEnded i events ending canceled)
    (more : List Event) : b.FeedEnded i (events ++ more) ending canceled := by
  obtain ⟨before, e, rest, p, rfl, here, ends⟩ := h
  exact ⟨before, e, rest ++ more, p, by simp, here, ends⟩

theorem after_concat (b : Broker) (events : List Event) (e : Event) :
    b.after (events ++ [e]) = (b.after events).step e := after_append b events [e]

theorem Sound.ended_before (h : b.Sound) (fresh : b.pulls = []) (events : List Event)
    (there : (b.after events).pulls[i]? = some q) (returned : q.returned = true) :
    ∃ ending canceled, b.FeedEnded i events ending canceled := by
  induction events using List.reverseRecOn generalizing q with
  | nil =>
    rw [after_nil, fresh] at there
    cases there
  | append_singleton events e ih =>
    rw [after_concat] at there
    have sound := h.after events
    cases here : (b.after events).pulls[i]? with
    | none =>
      rw [Pull.returned, sound.newborn e here there] at returned
      cases returned
    | some p =>
      cases earlier : p.returned with
      | true =>
        obtain ⟨ending, canceled, ended⟩ := ih here earlier
        exact ⟨ending, canceled, ended.later [e]⟩
      | false =>
        obtain ⟨ending, canceled, ends, -⟩ := (sound.change e here there).ends earlier returned
        exact ⟨ending, canceled, events, e, [], p, rfl, here, ends⟩

theorem Sound.concludes_after (h : b.Sound) (events : List Event) (here : b.pulls[i]? = some p)
    (concludes : p.Concludes ending canceled) :
    ∃ q, (b.after events).pulls[i]? = some q ∧ q.Concludes ending canceled := by
  induction events generalizing b p with
  | nil => exact ⟨p, here, concludes⟩
  | cons e rest ih =>
    obtain ⟨q, there, -⟩ := Moves.line (step_moves e h.related) here
    exact ih (h.step e) there ((h.change e here there).concluded concludes)

theorem Sound.concludes_of_ended (h : b.Sound) {events : List Event}
    (ended : b.FeedEnded i events ending canceled) :
    ∃ q, (b.after events).pulls[i]? = some q ∧ q.Concludes ending canceled := by
  obtain ⟨before, e, rest, p, rfl, here, ends⟩ := ended
  have sound := h.after before
  obtain ⟨-, leaves⟩ := sound.ends here ends.ending
  obtain ⟨q, there, concludes, -⟩ := leaves.concluded
  rw [ends.canceled] at concludes
  rw [after_append, after_cons]
  exact (sound.step e).concludes_after rest there concludes

theorem Sound.returned_iff (h : b.Sound) (fresh : b.pulls = []) (events : List Event)
    (there : (b.after events).pulls[i]? = some q) :
    q.returned = true ↔ ∃ ending canceled, b.FeedEnded i events ending canceled := by
  constructor
  · intro returned
    exact h.ended_before fresh events there returned
  · intro ⟨ending, canceled, ended⟩
    obtain ⟨q', there', concludes⟩ := h.concludes_of_ended ended
    cases there.symm.trans there'
    exact concludes.returned

theorem Sound.ends_of_counted (h : b.Sound) (counted : (b.step e).pullsFailed ≠ b.pullsFailed) :
    ∃ (i : Nat) (p q : Pull), b.pulls[i]? = some p ∧ pullEnded p = false ∧
      (b.step e).pulls[i]? = some q ∧ pullEnded q = true := by
  by_cases foreign : ∀ i, e.ofPull i = false
  · exact absurd (pullsFailed_foreign foreign) counted
  · obtain ⟨i, own⟩ : ∃ i, e.ofPull i = true := by simpa using foreign
    cases here : b.pulls[i]? with
    | none => exact absurd (congrArg pullsFailed (step_absent own here)) counted
    | some p =>
      obtain ⟨q, there, -⟩ := Moves.line (step_moves e h.related) here
      refine ⟨i, p, q, here, ?_⟩
      cases h.change e here there with
      | kept state still => exact absurd (congrArg pullsFailed (still own)) counted
      | continues before going uncounted => exact absurd uncounted counted
      | concludes _ _ own before lasts concludes grown =>
        refine ⟨lasts, there, ?_⟩
        by_contra lasts'
        have none : q.failures = 0 := Pull.failures_of_lasting (by simpa using lasts')
        rw [none] at grown
        exact counted grown

theorem held_of_backs {rs : List Request} (backed : List.Forall₂ Request.Backs rs b.pulls)
    (here : b.pulls[i]? = some p) (returned : p.returned = true) : p.held = [] := by
  obtain ⟨small, rfl⟩ := List.getElem?_eq_some_iff.mp here
  have backs := backed.get (backed.length_eq ▸ small) small
  exact backs.2.trans (if_pos returned)

/-- What the step in which the feed of the pull `p` ends leaves behind. -/
structure Settles (b : Broker) (i : Nat) (e : Event) (p q : Pull) : Prop where
  ends : ∃ ending canceled, b.Ends i p e ending canceled
  released : ∃ r, (b.step e).registry.relays[p.relay]? = some r ∧ r.Released
  held : q.held = []
  limits : (b.step e).limits = Limits.releaseAll b.limits p.held
  /-- Nobody else holds these units now; they are to spare, or reserved for those who wait. -/
  units : ∀ (n : Nat) l, b.limits[n]? = some l →
    ∃ l', (b.step e).limits[n]? = some l' ∧ l'.spare = l.spare + weightAt n p.held
  watcher : q.watcher = .ended

theorem Sound.settles (h : b.Sound) (funded : b.Funded) (e : Event) (here : b.pulls[i]? = some p)
    (there : (b.step e).pulls[i]? = some q) (going : p.returned = false)
    (returned : q.returned = true) : b.Settles i e p q := by
  obtain ⟨ending, canceled, ends, -, released⟩ := (h.change e here there).ends going returned
  obtain ⟨-, held, limits⟩ := h.returns funded e here going there returned
  obtain ⟨s, -, fits⟩ := (h.step e).pullsFit.fits i q there
  have units (n : Nat) (l : Limit) (old : b.limits[n]? = some l) :
      ∃ l', (b.step e).limits[n]? = some l' ∧ l'.spare = l.spare + weightAt n p.held := by
    rw [limits]
    exact Limits.spare_releaseAll funded.balanced.sane p.held n l old
  exact ⟨⟨ending, canceled, ends⟩, released, held, limits, units, fits.watcher returned⟩

theorem Sound.settles_of_ending (h : b.Sound) (funded : b.Funded) (here : b.pulls[i]? = some p)
    (ends : b.ending? i e = some ending) :
    p.returned = false ∧
      ∃ q, (b.step e).pulls[i]? = some q ∧ q.returned = true ∧ b.Settles i e p q := by
  obtain ⟨going, leaves⟩ := h.ends here ends
  obtain ⟨q, there, concludes, -⟩ := leaves.concluded
  refine ⟨going, q, there, concludes.returned, ?_⟩
  exact h.settles funded e here there going concludes.returned

theorem enterLeaving_cleared (here : b.pulls[i]? = some q) (p : Pull) (guard : Nat)
    (ending : Ending) (canceled : Bool) :
    ∃ q', (b.enterLeaving i p guard ending canceled).pulls[i]? = some q' ∧ q'.cleared = true := by
  unfold enterLeaving
  dsimp only
  split
  · exact ⟨_, getElem?_setPull (by exact here) _, rfl⟩
  · exact ⟨_, getElem?_setPull (by exact here) _, rfl⟩

/-- Once it has the lock, a pull whose feed has ended takes its relay out of the table, and once the
relay's sinks have ended it ends. -/
theorem goes_on (here : b.pulls[i]? = some p) (returned : p.returned = true)
    (ready : b.isReady (.pull i) = true) :
    ∃ q, (b.step (.run (.pull i))).pulls[i]? = some q ∧ q.cleared = true ∧
      (p.cleared = true → pullEnded q = true) := by
  have stepped : b.step (.run (.pull i)) = b.runPull i := if_pos ready
  have ready' : b.pullReady p = true := by simpa [isReady, here] using ready
  rw [stepped]
  cases state : p.state with
  | leaving guard ending canceled =>
    obtain ⟨q, there, cleared⟩ := enterLeaving_cleared here p guard ending canceled
    refine ⟨q, ?_, cleared, ?_⟩
    · simpa only [runPull, here, state] using there
    · intro before
      rw [Pull.cleared, state] at before
      cases before
  | closing sinks ending canceled =>
    refine ⟨{ p with state := .ended (outcome ending canceled).1 }, ?_, rfl, fun _ => rfl⟩
    simp only [runPull, here, state]
    exact getElem?_setPull here _
  | ended outcome =>
    rw [pullReady, state] at ready'
    cases ready'
  | starting | queued | running =>
    rw [Pull.returned, state] at returned
    cases returned

theorem Sound.idle (h : b.Sound) (funded : b.Funded) (own : e.ofPull i = true)
    (here : b.pulls[i]? = some p) (held : p.held = []) (returned : p.returned = true) :
    (b.step e).limits = b.limits := by
  have spent : Spent b.limits p b p := .inr ⟨returned, held, by rw [held]; rfl⟩
  obtain ⟨q, there, ⟨going, -⟩ | ⟨-, -, limits⟩⟩ := h.spent funded own here spent
  · rw [(h.change e here there).returned returned] at going
    cases going
  · rw [limits, held]
    rfl

/-- How pulls clean up, in the step after the events. -/
structure CleansUp (b : Broker) (events : List Event) (m : Broker) : Prop where
  /-- In the step in which a feed ends nobody can join its relay any more, no listener waits there,
  and the units are back. -/
  settles : ∀ (e : Event) (i : Nat) p q, m.pulls[i]? = some p → (m.step e).pulls[i]? = some q →
    p.returned = false → q.returned = true → m.Settles i e p q
  /-- No end of a feed goes unnoticed. -/
  ends : ∀ (e : Event) (i : Nat) p ending, m.pulls[i]? = some p → m.ending? i e = some ending →
    p.returned = false ∧
      ∃ q, (m.step e).pulls[i]? = some q ∧ q.returned = true ∧ m.Settles i e p q
  ended : ∀ (i : Nat) p, m.pulls[i]? = some p → (p.returned = true ↔
    ∃ ending canceled, b.FeedEnded i events ending canceled)
  goesOn : ∀ (i : Nat) p, m.pulls[i]? = some p → p.returned = true →
    m.isReady (.pull i) = true →
      ∃ q, (m.step (.run (.pull i))).pulls[i]? = some q ∧ q.cleared = true ∧
        (p.cleared = true → pullEnded q = true)
  gone : ∀ (i : Nat) p, m.pulls[i]? = some p → pullEnded p = true →
    m.Deserted p.relay ∧ m.registry.Unlisted p.relay
  counted : ∀ (e : Event) (i : Nat) p q ending canceled, m.pulls[i]? = some p →
    pullEnded p = false → (m.step e).pulls[i]? = some q → pullEnded q = true →
      b.FeedEnded i (events ++ [e]) ending canceled →
        ending.Fails canceled ∧ (m.step e).pullsFailed = m.pullsFailed + 1 ∨
          ¬ ending.Fails canceled ∧ (m.step e).pullsFailed = m.pullsFailed
  uncounted : ∀ e, (m.step e).pullsFailed ≠ m.pullsFailed →
    ∃ (i : Nat) (p q : Pull), m.pulls[i]? = some p ∧ pullEnded p = false ∧
      (m.step e).pulls[i]? = some q ∧ pullEnded q = true
  /-- A feed that has ended does not end again, and nothing is given back again. -/
  once : ∀ (e : Event) (i : Nat) p q, m.pulls[i]? = some p → p.returned = true →
    (m.step e).pulls[i]? = some q →
      q.returned = true ∧ (e.ofPull i = true → (m.step e).limits = m.limits)
  remains : ∀ (e : Event) (i : Nat) p q, m.pulls[i]? = some p → pullEnded p = true →
    (m.step e).pulls[i]? = some q → pullEnded q = true ∧ (e.ofPull i = true → m.step e = m)
  /-- Other relays and pulls, of the same key or not, are none of the pull's business. -/
  aside : ∀ (e : Event) (i : Nat) p, m.pulls[i]? = some p → e.ofPull i = true →
    Aside i p.relay m (m.step e)
  closers : ∀ (i : Nat) (place : SinkPlace), Aside i place.1 m (m.step (.run (.closer place)))

theorem cleaned_up (config : BrokerConfig) (caps : List (String × Nat)) (events : List Event) :
    let b := Broker.new config (caps.map fun c => .new c.1 c.2)
    b.CleansUp events (b.after events) := by
  intro b
  have start : b.Sound := .initial config _
  have fresh : b.Funded := ⟨.fresh caps, by simp [b, new]⟩
  have sound := start.after events
  have funded := fresh.moves (start.moves_after events)
  have backed := start.backs_after fresh events .nil
  have cleared : b.Cleared := by simp [Cleared, b, new]
  constructor
  case settles =>
    intro e i p q here there going returned
    exact sound.settles funded e here there going returned
  case gone =>
    intro i p here ended
    have gone := Pull.cleared_of_ended ended
    obtain ⟨s, old, fits⟩ := sound.pullsFit.fits i p here
    have deserted : (b.after events).Deserted p.relay :=
      deserted_iff.mpr ⟨s, old, fits.vacated gone⟩
    exact ⟨deserted, cleared.after start events i p here gone⟩
  case ends =>
    intro e i p ending here ends
    exact sound.settles_of_ending funded here ends
  case ended =>
    intro i p here
    exact start.returned_iff rfl events here
  case goesOn =>
    intro i p here returned ready
    exact goes_on here returned ready
  case counted =>
    intro e i p q ending canceled here lasts there done ended
    have grown := (sound.change e here there).counts lasts done
    obtain ⟨q', there', concludes⟩ := start.concludes_of_ended ended
    rw [after_concat] at there'
    cases there.symm.trans there'
    rcases concludes.failures done with ⟨fails, one⟩ | ⟨fine, none⟩
    · rw [one] at grown
      exact .inl ⟨fails, grown⟩
    · rw [none] at grown
      exact .inr ⟨fine, grown⟩
  case uncounted =>
    intro e counted
    exact sound.ends_of_counted counted
  case once =>
    intro e i p q here returned there
    have held := held_of_backs backed here returned
    exact ⟨(sound.change e here there).returned returned,
      fun own => sound.idle funded own here held returned⟩
  case remains =>
    intro e i p q here ended there
    exact (sound.change e here there).remains ended
  case aside =>
    intro e i p here own
    exact step_aside own here
  case closers =>
    intro i place
    exact closer_aside _ i place

def restarted : List Event := come 0 ++ [.stop ⟨"a"⟩, .run (.stop 0)] ++ come 1

theorem cleaned_up_after_cut :
    let m := (Broker.new {} [.new "g" 2]).after restarted
    let cut : Event := .turn 0 { ending := some (.returned (.error (.io "cut"))) }
    ∃ p q, m.pulls[0]? = some p ∧ (m.step cut).pulls[0]? = some q ∧ p.returned = false ∧
      q.returned = true ∧ m.Settles 0 cut p q ∧ m.Aside 0 p.relay (m.step cut) ∧
      (m.step cut).pullsFailed = 1 ∧ (m.step cut).registry.find? ⟨"a"⟩ = some 1 := by
  intro m cut
  have cleans : (Broker.new {} [.new "g" 2]).CleansUp restarted m :=
    cleaned_up {} [("g", 2)] restarted
  obtain ⟨p, here⟩ : ∃ p, m.pulls[0]? = some p := Option.isSome_iff_exists.mp (by decide)
  have ends : m.ending? 0 cut = some (.returned (.error (.io "cut"))) := rfl
  obtain ⟨going, q, there, returned, settles⟩ := cleans.ends cut 0 p _ here ends
  have aside := cleans.aside cut 0 p here rfl
  exact ⟨p, q, here, there, going, returned, settles, aside, by decide, by decide⟩

end Broker

end Fanout
