import Fanout.Proofs.Broker.Answer
import Fanout.Proofs.Broker.CleanUp
import Fanout.Proofs.Broker.Progress

namespace Fanout.Broker

variable {b b' : Broker} {i j : Nat} {e : Event} {p : Pull}

structure Drained (b : Broker) : Prop where
  pulls : ∀ p ∈ b.pulls, pullEnded p = true
  departures : ∀ d ∈ b.departures, d.state = .ended

theorem isDrained_iff : b.isDrained = true ↔ b.Drained := by
  simp only [isDrained, Bool.and_eq_true, List.all_eq_true, beq_iff_eq]
  exact ⟨fun ⟨pulls, departures⟩ => ⟨pulls, departures⟩, fun h => ⟨h.pulls, h.departures⟩⟩

namespace Drained

theorem updatePull (h : b.Drained) {f : Pull → Pull} (state : ∀ p, (f p).state = p.state) :
    (b.updatePull i f).Drained := by
  refine ⟨?_, h.departures⟩
  intro q member
  obtain ⟨p, old, rfl | ⟨-, rfl⟩⟩ := mem_modify member
  · exact h.pulls q old
  · have ended := h.pulls p old
    rwa [pullEnded, state]

theorem pullMove (h : b.Drained) (move : b.PullMove i b') : b'.Drained := by
  have ended {p : Pull} (here : b.pulls[i]? = some p) := h.pulls p (List.mem_of_getElem? here)
  cases move with
  | queue here state | subscribe here state | endFeed _ _ here state | close _ here state
  | finish _ here state =>
    have stopped := ended here
    rw [pullEnded, state] at stopped
    cases stopped
  | notice here ready => exact h.updatePull fun _ => rfl

theorem departMove (h : b.Drained) (move : b.DepartMove i b') : b'.Drained := by
  have ended {d : Departure} (here : b.departures[i]? = some d) :=
    h.departures d (List.mem_of_getElem? here)
  cases move with
  | queue here state | depart here state | done here state =>
    rw [ended here] at state
    cases state

theorem quiet (h : b.Drained) (same : b.Quiet b') : b'.Drained := by
  refine ⟨?_, same.departures ▸ h.departures⟩
  intro q member
  have outlined := List.mem_map_of_mem (f := Pull.outline) member
  rw [same.pulls] at outlined
  obtain ⟨p, old, outline⟩ := List.mem_map.mp outlined
  have state : p.outline.state = q.outline.state := congrArg (·.state) outline
  have ended := h.pulls p old
  rw [pullEnded] at ended ⊢
  rwa [show p.state = q.state from state] at ended

theorem outerMove (h : b.Drained) (move : b.OuterMove b') : b'.Drained := by
  cases move with
  | dropReader k =>
    refine ⟨h.pulls, ?_⟩
    intro d member
    obtain ⟨d', old, rfl | ⟨-, rfl⟩⟩ := mem_modify member
    · exact h.departures d old
    · exact h.departures d' old
  | _ => exact ⟨h.pulls, h.departures⟩

end Drained

structure Ceases (b b' : Broker) : Prop where
  down : b'.shutdown = true
  lines : b'.pulls.map Pull.line = b.pulls.map Pull.line
  drained : b.Drained → b'.Drained

theorem Move.ceases (move : Move b b') (down : b.shutdown = true) : b.Ceases b' := by
  have still := move.down down
  cases move with
  | quiet same => exact ⟨still, same.lines, (·.quiet same)⟩
  | outer move => exact ⟨still, by cases move <;> rfl, (·.outerMove move)⟩
  | opening move =>
    cases move with
    | queue here up | arrive deadline here held up | join here held up | grant here up =>
      rw [down] at up
      cases up
    | refuse | turnAway | wait | deny | denyGone | dispose =>
      exact ⟨still, rfl, fun h => ⟨h.pulls, h.departures⟩⟩
  | departure move => exact ⟨still, by cases move <;> rfl, (·.departMove move)⟩
  | pull move => exact ⟨still, move.lines, (·.pullMove move)⟩
  | stop move =>
    refine ⟨still, by cases move <;> rfl, ?_⟩
    intro h
    cases move <;> exact ⟨h.pulls, h.departures⟩

theorem Moves.ceases (moves : Moves b b') (down : b.shutdown = true) : b.Ceases b' := by
  induction moves with
  | refl => exact ⟨down, rfl, id⟩
  | tail _ move ih =>
    have next := move.ceases ih.down
    exact ⟨next.down, next.lines.trans ih.lines, fun h => next.drained (ih.drained h)⟩

theorem setClose_other {k : Nat} (b : Broker) (state : CloseState) (differs : k ≠ j) :
    (b.setClose k state).closes[j]? = b.closes[j]? := by
  simp [setClose, differs]

theorem drain_other {k : Nat} (b : Broker) (differs : k ≠ j) :
    (b.drain k).closes[j]? = b.closes[j]? := by
  unfold drain
  split
  · exact setClose_other b _ differs
  · exact setClose_other b _ differs

theorem runClose_other {k : Nat} (b : Broker) (differs : k ≠ j) :
    (b.runClose k).closes[j]? = b.closes[j]? := by
  unfold runClose
  split
  · split
    · exact setClose_other b _ differs
    · dsimp only
      split
      · exact drain_other _ differs
      · exact setClose_other _ _ differs
  · exact drain_other b differs
  · exact setClose_other b _ differs
  · rfl

theorem abandonClose_other {k : Nat} (b : Broker) (differs : k ≠ j) :
    (b.abandonClose k).closes[j]? = b.closes[j]? := by
  unfold abandonClose
  split
  · exact setClose_other _ _ differs
  · rfl
  · rfl
  · exact setClose_other b _ differs

/-- How the call at `j` stands that has shut the broker down. It ends only when the broker is
drained. -/
structure Closing (b : Broker) (j : Nat) : Prop where
  down : b.shutdown = true
  call : ∃ state, b.closes[j]? = some state ∧ state ≠ .starting ∧ (state = .ended → b.Drained)

namespace Closing

theorem setClose (down : b.shutdown = true) {before state : CloseState}
    (here : b.closes[j]? = some before) (going : state ≠ .starting)
    (drained : state = .ended → b.Drained) : (b.setClose j state).Closing j := by
  refine ⟨down, state, by simp [Broker.setClose, here], going, ?_⟩
  intro ended
  have drained := drained ended
  exact ⟨drained.pulls, drained.departures⟩

theorem drain (down : b.shutdown = true) {before : CloseState} (here : b.closes[j]? = some before) :
    (b.drain j).Closing j := by
  unfold Broker.drain
  split
  · rename_i drained
    exact setClose down here (by simp) fun _ => isDrained_iff.mp drained
  · exact setClose down here (by simp) (by simp)

theorem begin (up : b.shutdown = false) (here : b.closes[j]? = some .starting) :
    (b.runClose j).Closing j := by
  simp only [Broker.runClose, here, up, Bool.false_eq_true, if_false]
  split
  · exact drain rfl here
  · exact setClose rfl here (by simp) (by simp)

theorem other (h : b.Closing j) (ceases : b.Ceases b') (same : b'.closes[j]? = b.closes[j]?) :
    b'.Closing j := by
  obtain ⟨state, here, going, drained⟩ := h.call
  exact ⟨ceases.down, state, same.trans here, going, fun ended => ceases.drained (drained ended)⟩

theorem runClose (h : b.Closing j) (ready : b.isReady (.close j) = true) :
    (b.runClose j).Closing j := by
  obtain ⟨state, here, going, drained⟩ := h.call
  cases state with
  | starting => exact absurd rfl going
  | closing sinks =>
    simp only [Broker.runClose, here]
    exact drain h.down here
  | draining =>
    have drained : b.isDrained = true := by simpa [isReady, here, closeReady] using ready
    simp only [Broker.runClose, here]
    exact setClose h.down here (by simp) fun _ => isDrained_iff.mp drained
  | ended | abandoned =>
    simp only [Broker.runClose, here]
    exact h

theorem abandonClose (h : b.Closing j) : (b.abandonClose j).Closing j := by
  obtain ⟨state, here, going, drained⟩ := h.call
  cases state with
  | ended =>
    simp only [Broker.abandonClose, here]
    exact h
  | starting | draining | abandoned =>
    simp only [Broker.abandonClose, here]
    exact setClose h.down here (by simp) (by simp)
  | closing sinks =>
    simp only [Broker.abandonClose, here]
    exact setClose (b := { b with registry := b.registry.abandonClose sinks }) h.down here
      (by simp) (by simp)

theorem step (h : b.Closing j) (sound : b.Sound) (e : Event) : (b.step e).Closing j := by
  have ceases := Moves.ceases (step_moves e sound.related) h.down
  cases foreign : e.ofClose with
  | false => exact h.other ceases (by rw [closes_foreign foreign])
  | true =>
    cases e with
    | close =>
      obtain ⟨state, here, -⟩ := h.call
      have small := (List.getElem?_eq_some_iff.mp here).1
      exact h.other ceases (List.getElem?_append_left small)
    | run task =>
      cases task with
      | close k =>
        simp only [Broker.step] at ceases ⊢
        split
        · rename_i ready
          rw [if_pos ready] at ceases
          by_cases same : k = j
          · subst same
            exact h.runClose ready
          · exact h.other ceases (runClose_other b same)
        · exact h
      | _ => cases foreign
    | abandon call =>
      cases call with
      | close k =>
        by_cases same : k = j
        · subst same
          exact h.abandonClose
        · exact h.other ceases (abandonClose_other b same)
      | _ => cases foreign
    | _ => cases foreign

theorem after (h : b.Closing j) (sound : b.Sound) (events : List Event) :
    (b.after events).Closing j := by
  induction events generalizing b with
  | nil => exact h
  | cons e rest ih => exact ih (h.step sound e) (sound.step e)

end Closing

/-- The pull is over: it has none of its units, and its relay is closed and has no viewers. -/
structure Over (b : Broker) (p : Pull) : Prop where
  ended : pullEnded p = true
  held : p.held = []
  deserted : b.Deserted p.relay

/-- What holds of `m`, any state after the call at `j` has shut the broker `b` down. -/
structure Final (b : Broker) (j : Nat) (m : Broker) : Prop where
  down : m.shutdown = true
  pulls : m.pulls.map Pull.line = b.pulls.map Pull.line
  unopened : ∀ (i : Nat) r place k, m.openings[i]? = some ⟨r, .opened place k⟩ →
    b.openings[i]? = some ⟨r, .opened place k⟩
  turnedAway : ∀ (i : Nat) r error, m.openings[i]? = some ⟨r, .refused error⟩ →
    b.openings[i]? = some ⟨r, .refused error⟩ ∨ error = b.verdict i r
  canProceed : ∀ (i : Nat) o, m.openings[i]? = some o → o.state.pending = true → m.CanProceed
  returned : m.closes[j]? = some .ended →
    (∀ p ∈ m.pulls, m.Over p) ∧ ∀ d ∈ m.departures, d.state = .ended
  empty : m.registry.table = []

theorem Sound.answer_after (h : b.Sound) (down : b.shutdown = true) (events : List Event)
    {o' : Opening} (there : (b.after events).openings[i]? = some o')
    (kept : o'.state ≠ .abandoned) :
    ∃ o, o.request = o'.request ∧ o.answer? = o'.answer? ∧
      (b.openings[i]? = some o ∨ b.openings[i]? = none ∧ o.state = .starting) := by
  induction events generalizing b with
  | nil => exact ⟨o', rfl, rfl, .inl there⟩
  | cons e rest ih =>
    have down' := (Moves.ceases (step_moves e h.related) down).down
    obtain ⟨o, request, answer, known⟩ := ih (h.step e) down' there
    -- the first step settles nothing new: it begins the open, or keeps its answer
    cases here : b.openings[i]? with
    | none =>
      refine ⟨o, request, answer, .inr ⟨rfl, ?_⟩⟩
      rcases known with next | ⟨-, starting⟩
      · exact h.starting_of_new e here next
      · exact starting
    | some before =>
      obtain ⟨next, there', request', settled⟩ := h.answer_step down e here
      rcases known with same | ⟨missing, -⟩
      · cases same.symm.trans there'
        rcases settled with given | settled
        · exfalso
          apply kept
          rw [← Opening.answer?_eq_none_iff, ← answer, Opening.answer?_eq_none_iff, given]
        · exact ⟨before, request'.symm.trans request, settled.symm.trans answer, .inl rfl⟩
      · cases missing.symm.trans there'

theorem Admitted.verdict_of_answer (h : b.Admitted) (up : b.shutdown = false) {o : Opening}
    {error : OpenError} (answer : o.answer? = some (.error error))
    (known : b.openings[i]? = some o ∨ b.openings[i]? = none ∧ o.state = .starting) :
    b.openings[i]? = some ⟨o.request, .refused error⟩ ∨ error = b.verdict i o.request := by
  rcases known with here | ⟨absent, starting⟩
  · exact h.verdict up here answer
  · right
    rw [Opening.answer?, starting] at answer
    cases answer
    simp [Broker.verdict, absent]

theorem opened_of_answer {o : Opening} {place : SinkPlace} {k : Nat}
    (answer : o.answer? = some (.ok (place, k)))
    (known : b.openings[i]? = some o ∨ b.openings[i]? = none ∧ o.state = .starting) :
    b.openings[i]? = some ⟨o.request, .opened place k⟩ := by
  have opened := Opening.opened_of_answer? answer
  rcases known with here | ⟨-, starting⟩
  · rw [here, ← opened]
  · cases opened.symm.trans starting

theorem Sound.over_of_drained (h : b.Sound) {rs : List Request}
    (backed : List.Forall₂ Request.Backs rs b.pulls) (drained : b.Drained) (member : p ∈ b.pulls) :
    b.Over p := by
  obtain ⟨i, here⟩ := List.mem_iff_getElem?.mp member
  have ended := drained.pulls p member
  have cleared := Pull.cleared_of_ended ended
  obtain ⟨s, old, fits⟩ := h.pullsFit.fits i p here
  exact ⟨ended, held_of_backs backed here (Pull.returned_of_cleared cleared),
    deserted_iff.mpr ⟨s, old, fits.vacated cleared⟩⟩

def crowd : List Event :=
  come 0 ++ [.request { key := ⟨"b"⟩, feed := .plain {}, limits := [0], token := 1 },
    .run (.opening 1), .close]

def aftermath : List Event :=
  [.request { key := ⟨"c"⟩, feed := .plain {}, token := 2 }, .run (.opening 2), .run (.opening 1),
    .run (.delivery (1, 1)), .run (.closer (1, 1)), .run (.opening 1),
    .turn 0 { ending := some (.returned (.ok 0)) }, .run (.delivery (0, 1)), .run (.closer (0, 1)),
    .run (.departure 0), .run (.pull 0), .run (.close 0), .run (.close 0)]

example :
    let m := (((Broker.new {} [.new "g" 1]).after crowd).step (.run (.close 0))).after aftermath
    m.closes = [.ended] ∧ m.pulls.map pullEnded = [true] ∧ m.limits.map (·.available) = [1] ∧
      m.ready = [] := by
  decide

end Fanout.Broker
