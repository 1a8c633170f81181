import Fanout.Proofs.Broker.Caps
import Fanout.Proofs.Broker.Ending

namespace Fanout

namespace Pull

variable {p : Pull} {s : Roster} {ending : Ending} {canceled : Bool}

theorem returned_of_cleared (cleared : p.cleared = true) : p.returned = true := by
  unfold Pull.cleared at cleared
  unfold returned
  split at cleared <;> simp_all

theorem cleared_of_ended (ended : Broker.pullEnded p = true) : p.cleared = true := by
  unfold Broker.pullEnded at ended
  unfold cleared
  split at ended <;> simp_all

theorem Concludes.unique {ending' : Ending} {canceled' : Bool} (h : p.Concludes ending canceled)
    (h' : p.Concludes ending' canceled') (lasts : Broker.pullEnded p = false) :
    ending = ending' ∧ canceled = canceled' := by
  unfold Concludes at h h'
  cases state : p.state with
  | leaving guard e c | closing sinks e c =>
    rw [state] at h h'
    exact ⟨h.1.symm.trans h'.1, h.2.symm.trans h'.2⟩
  | ended outcome =>
    rw [Broker.pullEnded, state] at lasts
    cases lasts
  | starting | queued guard | running =>
    rw [state] at h
    cases h

theorem failures_of_lasting (lasts : Broker.pullEnded p = false) : p.failures = 0 := by
  cases state : p.state with
  | ended outcome =>
    rw [Broker.pullEnded, state] at lasts
    cases lasts
  | _ => rw [failures, state]

theorem Concludes.failures (h : p.Concludes ending canceled)
    (ended : Broker.pullEnded p = true) :
    ending.Fails canceled ∧ p.failures = 1 ∨ ¬ ending.Fails canceled ∧ p.failures = 0 := by
  cases state : p.state with
  | ended outcome =>
    rw [Concludes, state] at h
    rw [Pull.failures, state, h, ← Broker.outcome_eq_failed_iff]
    by_cases failed : (Broker.outcome ending canceled).1 = .failed
    · exact .inl ⟨failed, if_pos failed⟩
    · exact .inr ⟨failed, if_neg failed⟩
  | _ =>
    rw [Broker.pullEnded, state] at ended
    cases ended

theorem Fits.watcher (h : p.Fits s) (returned : p.returned = true) : p.watcher = .ended := by
  obtain ⟨-, fits⟩ := h
  cases state : p.state with
  | leaving | closing | ended =>
    rw [state] at fits
    exact fits.2.1
  | _ =>
    rw [Pull.returned, state] at returned
    cases returned

theorem Fits.vacated (h : p.Fits s) (cleared : p.cleared = true) :
    s.closed = true ∧ s.present = [] := by
  obtain ⟨-, fits⟩ := h
  cases state : p.state with
  | closing | ended =>
    rw [state] at fits
    exact ⟨fits.1, fits.2.2⟩
  | _ =>
    rw [Pull.cleared, state] at cleared
    cases cleared

end Pull

namespace Broker

variable {b b' : Broker} {i : Nat} {p q : Pull} {e : Event} {ending : Ending} {canceled : Bool}

theorem Moves.line (moves : Moves b b') (here : b.pulls[i]? = some p) :
    ∃ q, b'.pulls[i]? = some q ∧ q.line = p.line := by
  obtain ⟨added, lines⟩ := Moves.lines moves
  have small := (List.getElem?_eq_some_iff.mp here).1
  have line : (b'.pulls.map Pull.line)[i]? = some p.line := by
    rw [← lines, List.getElem?_append_left (by rwa [List.length_map]), List.getElem?_map, here]
    rfl
  rwa [List.getElem?_map, Option.map_eq_some_iff] at line

theorem Sound.newborn (h : b.Sound) (e : Event) (absent : b.pulls[i]? = none)
    (there : (b.step e).pulls[i]? = some q) : q.state = .starting := by
  cases own : e.ofPull i with
  | true =>
    rw [step_absent own absent, absent] at there
    cases there
  | false =>
    rcases h.foreign_step own with kept | ⟨-, q', there', starting⟩
    · rw [absent, there] at kept
      cases kept
    · cases there.symm.trans there'
      exact starting

/-- In this event the feed of the pull ends so. -/
structure Ends (b : Broker) (i : Nat) (p : Pull) (e : Event) (ending : Ending) (canceled : Bool) :
    Prop where
  ending : b.ending? i e = some ending
  canceled : b.scopeCanceled p = canceled

/-- What becomes of the pull `p` in a step, whosever step it is. -/
inductive Change (b : Broker) (i : Nat) (e : Event) (p q : Pull) : Prop
  | kept (state : q.state = p.state) (still : e.ofPull i = true → b.step e = b)
  | continues (before : p.returned = false) (going : q.returned = false)
      (uncounted : (b.step e).pullsFailed = b.pullsFailed)
  | concludes (ending : Ending) (canceled : Bool) (own : e.ofPull i = true)
      (before : p.returned = false ∧ b.Ends i p e ending canceled ∨ p.Concludes ending canceled)
      (lasts : pullEnded p = false) (concludes : q.Concludes ending canceled)
      (counted : (b.step e).pullsFailed = b.pullsFailed + q.failures)
      (released : p.returned = false →
        ∃ r, (b.step e).registry.relays[p.relay]? = some r ∧ r.Released)
      (unlisted : q.cleared = true → p.cleared = true ∨ (b.step e).registry.Unlisted p.relay)

theorem Sound.change (h : b.Sound) (e : Event) (here : b.pulls[i]? = some p)
    (there : (b.step e).pulls[i]? = some q) : b.Change i e p q := by
  cases own : e.ofPull i with
  | false =>
    obtain ⟨q', there', outline⟩ := h.foreign_pull own here
    cases there.symm.trans there'
    have state := congrArg Pull.state outline
    exact .kept state (by rw [own]; nofun)
  | true =>
    cases h.pull_step own here with
    | still same =>
      rw [same, here] at there
      cases there
      exact .kept rfl fun _ => same
    | continues before continues =>
      obtain ⟨q', there', going, uncounted⟩ := continues
      cases there.symm.trans there'
      exact .continues before going uncounted
    | ends ending going ends leaves =>
      obtain ⟨⟨q', there', concludes, counted⟩, released, unlisted⟩ := leaves
      cases there.symm.trans there'
      refine .concludes ending _ own (.inl ⟨going, ends, rfl⟩) ?_ concludes counted
        (fun _ => released) ?_
      · by_contra ended
        have returned := Pull.returned_of_cleared (Pull.cleared_of_ended (by simpa using ended))
        exact Bool.false_ne_true (going.symm.trans returned)
      · intro cleared
        exact .inr (unlisted q there cleared)
    | leaves leaving leaves =>
      obtain ⟨⟨q', there', concludes, counted⟩, released, unlisted⟩ := leaves
      cases there.symm.trans there'
      refine .concludes _ _ own (.inr ?_) ?_ concludes counted (fun _ => released) ?_
      · rw [Pull.Concludes, leaving]
        exact ⟨rfl, rfl⟩
      · rw [pullEnded, leaving]
      · intro cleared
        exact .inr (unlisted q there cleared)
    | finishes closing concluded =>
      obtain ⟨q', there', concludes, counted⟩ := concluded
      cases there.symm.trans there'
      refine .concludes _ _ own (.inr ?_) ?_ concludes counted ?_ ?_
      · rw [Pull.Concludes, closing]
        exact ⟨rfl, rfl⟩
      · rw [pullEnded, closing]
      · intro going
        rw [Pull.returned, closing] at going
        cases going
      · intro _
        exact .inl (by rw [Pull.cleared, closing])

namespace Change

theorem concluded (h : b.Change i e p q) (concludes : p.Concludes ending canceled) :
    q.Concludes ending canceled := by
  cases h with
  | kept state => rwa [Pull.Concludes, state]
  | continues before =>
    rw [concludes.returned] at before
    cases before
  | concludes _ _ own before lasts concludes' =>
    rcases before with ⟨going, -⟩ | same
    · cases going.symm.trans concludes.returned
    · obtain ⟨rfl, rfl⟩ := concludes.unique same lasts
      exact concludes'

theorem returned (h : b.Change i e p q) (returned : p.returned = true) : q.returned = true := by
  cases h with
  | kept state => rwa [Pull.returned, state]
  | continues before =>
    rw [returned] at before
    cases before
  | concludes _ _ own before lasts concludes => exact concludes.returned

theorem ends (h : b.Change i e p q) (going : p.returned = false) (returned : q.returned = true) :
    ∃ ending canceled, b.Ends i p e ending canceled ∧ q.Concludes ending canceled ∧
      ∃ r, (b.step e).registry.relays[p.relay]? = some r ∧ r.Released := by
  cases h with
  | kept state =>
    rw [Pull.returned, state] at returned
    cases going.symm.trans returned
  | continues before after =>
    rw [returned] at after
    cases after
  | concludes ending canceled own before lasts concludes counted released =>
    rcases before with ⟨-, ends⟩ | before
    · exact ⟨ending, canceled, ends, concludes, released going⟩
    · cases going.symm.trans before.returned

theorem remains (h : b.Change i e p q) (ended : pullEnded p = true) :
    pullEnded q = true ∧ (e.ofPull i = true → b.step e = b) := by
  cases h with
  | kept state still => exact ⟨by rwa [pullEnded, state], still⟩
  | continues before =>
    rw [Pull.returned_of_cleared (Pull.cleared_of_ended ended)] at before
    cases before
  | concludes _ _ own before lasts =>
    rw [ended] at lasts
    cases lasts

theorem counts (h : b.Change i e p q) (lasts : pullEnded p = false)
    (ended : pullEnded q = true) : (b.step e).pullsFailed = b.pullsFailed + q.failures := by
  cases h with
  | kept state =>
    rw [pullEnded, state] at ended
    exact absurd (lasts.symm.trans ended) Bool.false_ne_true
  | continues before going =>
    rw [Pull.returned_of_cleared (Pull.cleared_of_ended ended)] at going
    cases going
  | concludes _ _ own before lasts concludes counted => exact counted

end Change

end Broker

end Fanout
