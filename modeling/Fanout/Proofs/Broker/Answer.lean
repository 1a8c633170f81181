import Fanout.Proofs.Broker.Owner
import Fanout.Proofs.Broker.Vacated

namespace Fanout

/-- What the caller is told in the end if the broker is shut down: an error, or the viewer that there
already is. -/
def Opening.answer? (o : Opening) : Option (Except OpenError (SinkPlace × Nat)) :=
  match o.state with
  | .starting => some (.error (if o.request.key.isBlank then .invalidKey o.request.key else .closed))
  | .queued _ | .acquiring _ _ _ => some (.error .closed)
  | .disposing _ _ error | .refused error => some (.error error)
  | .opened place departure => some (.ok (place, departure))
  | .abandoned => none

theorem Opening.answer?_eq_none_iff {o : Opening} : o.answer? = none ↔ o.state = .abandoned := by
  cases state : o.state <;> simp [answer?, state]

theorem Opening.opened_of_answer? {o : Opening} {place : SinkPlace} {k : Nat}
    (answer : o.answer? = some (.ok (place, k))) : o.state = .opened place k := by
  cases state : o.state <;> simp_all [answer?]

namespace Broker

variable {b b' : Broker} {i guard : Nat} {key : StreamKey} {place : SinkPlace} {o o' : Opening}
  {r : Request} {error : OpenError} {e : Event} {events : List Event}

theorem getElem?_refuse (here : b.openings[i]? = some o) (key : StreamKey) (guard : Nat)
    (place : SinkPlace) (error : OpenError) :
    ∃ state, (b.refuse i key guard place error).openings[i]? = some ⟨o.request, state⟩ ∧
      (state = .disposing guard place error ∨ state = .refused error) := by
  rw [refuse_eq]
  generalize b.capacityRejections + _ = n
  rcases detach_or { b with capacityRejections := n } place with ⟨_, -, -, detached⟩ | detached
  · rw [detached]
    exact ⟨_, getElem?_setOpening here _, .inl rfl⟩
  · rw [detached]
    exact ⟨_, getElem?_endRefusal here, .inr rfl⟩

theorem runOpen_answer (down : b.shutdown = true) (here : b.openings[i]? = some o) :
    ∃ o', (b.runOpen i).openings[i]? = some o' ∧ o'.request = o.request ∧
      o'.answer? = o.answer? := by
  unfold runOpen
  rw [here]
  dsimp only
  cases state : o.state with
  | starting =>
    simp only [startOpen, down, if_true]
    split
    · rename_i blank
      exact ⟨_, getElem?_setOpening here _, rfl, by simp [Opening.answer?, state, blank]⟩
    · rename_i named
      exact ⟨_, getElem?_setOpening here _, rfl, by simp [Opening.answer?, state, named]⟩
  | queued guard =>
    simp only [enterOpen, attach_of_shutdown down]
    exact ⟨_, getElem?_setOpening (b := b.leave guard) here _, rfl, by simp [Opening.answer?, state]⟩
  | acquiring guard place a =>
    dsimp only
    rw [if_pos down]
    obtain ⟨after, there, refused⟩ := getElem?_refuse
      (b := { b with limits := a.abandon b.limits }) here o.request.key guard place .closed
    refine ⟨_, there, rfl, ?_⟩
    rcases refused with rfl | rfl <;> simp [Opening.answer?, state]
  | disposing guard place error =>
    exact ⟨_, getElem?_endRefusal here, rfl, by simp [Opening.answer?, state]⟩
  | refused | opened | abandoned => exact ⟨o, here, rfl, rfl⟩

theorem Sound.answer_step (h : b.Sound) (down : b.shutdown = true) (e : Event)
    (here : b.openings[i]? = some o) :
    ∃ o', (b.step e).openings[i]? = some o' ∧ o'.request = o.request ∧
      (o'.state = .abandoned ∨ o'.answer? = o.answer?) := by
  cases own : e.isOf i with
  | true =>
    rcases Event.isOf_iff.mp own with rfl | rfl
    · simp only [Broker.step]
      split
      · obtain ⟨o', there, request, answer⟩ := runOpen_answer down here
        exact ⟨o', there, request, .inr answer⟩
      · exact ⟨o, here, rfl, .inr rfl⟩
    · exact ⟨_, getElem?_abandonOpen here, rfl, .inl rfl⟩
  | false =>
    rcases h.openings_foreign own with same | ⟨missing, -⟩
    · exact ⟨o, same.trans here, rfl, .inr rfl⟩
    · rw [here] at missing
      cases missing

theorem Move.down (move : Move b b') (down : b.shutdown = true) : b'.shutdown = true := by
  rcases move.shutdown_cases with same | ⟨down', -⟩
  · exact same.trans down
  · exact down'

theorem Sound.starting_of_new (h : b.Sound) (e : Event) (absent : b.openings[i]? = none)
    (there : (b.step e).openings[i]? = some o) : o.state = .starting := by
  cases own : e.isOf i with
  | true =>
    have still : b.step e = b := by
      rcases Event.isOf_iff.mp own with rfl | rfl
      · simp [Broker.step, isReady, absent]
      · simp [Broker.step, abandon, abandonOpen, absent]
    rw [still, absent] at there
    cases there
  | false =>
    rcases h.openings_foreign own with same | ⟨-, r, asked⟩
    · rw [same, absent] at there
      cases there
    · cases there.symm.trans asked
      rfl

/-- What is known of an open that has been let in: its key is not blank, and for as long as the
broker is up it is refused for want of units only. -/
structure Admitted (b : Broker) : Prop where
  named : ∀ (i : Nat) r state, b.openings[i]? = some ⟨r, state⟩ → state.pending = true →
    state ≠ .starting → r.key.isBlank = false
  temporary : ∀ (i : Nat) r guard place error,
    b.openings[i]? = some ⟨r, .disposing guard place error⟩ → b.shutdown = false →
      error = .capacityExceeded

theorem runOpen_blank (here : b.openings[i]? = some o) (starting : o.state = .starting)
    (blank : o.request.key.isBlank = true) :
    (b.runOpen i).openings[i]? = some ⟨o.request, .refused (.invalidKey o.request.key)⟩ := by
  unfold runOpen
  rw [here]
  dsimp only
  rw [starting]
  simp only [startOpen, blank, if_true]
  exact getElem?_setOpening here _

namespace Admitted

theorem initial (config : BrokerConfig) (limits : Limits) : (Broker.new config limits).Admitted :=
  ⟨by simp [new], by simp [new]⟩

theorem temporary_move {m m' : Broker} (move : Move m m')
    (known : ∀ (i : Nat) r guard place error,
      m.openings[i]? = some ⟨r, .disposing guard place error⟩ → m.shutdown = false →
        error = .capacityExceeded)
    (here : m'.openings[i]? = some ⟨r, .disposing guard place error⟩)
    (up : m'.shutdown = false) : error = .capacityExceeded := by
  have before : m.shutdown = false := by
    by_contra down
    rw [move.down (by simpa using down)] at up
    cases up
  rcases move.disposes here with old | ⟨⟨a, -, denied⟩, -⟩
  · exact known i r guard place error old before
  · cases denied with
    | closed down =>
      rw [down] at before
      cases before
    | capacity => rfl

theorem named_step (h : b.Admitted) (sound : b.Sound) (e : Event) {state : OpenState}
    (there : (b.step e).openings[i]? = some ⟨r, state⟩) (pending : state.pending = true)
    (started : state ≠ .starting) : r.key.isBlank = false := by
  cases here : b.openings[i]? with
  | none =>
    have asked := sound.starting_of_new e here there
    exact absurd asked started
  | some o =>
    obtain ⟨state', there', ended⟩ := sound.opening_step e here
    cases there.symm.trans there'
    by_contra blank
    have blank : o.request.key.isBlank = true := by simpa using blank
    have alive : o.state.pending = true := by
      by_contra dead
      rw [ended (by simpa using dead)] at pending
      cases pending
    -- a blank key has not got the open any further than where it began
    have starting : o.state = .starting := by
      by_contra further
      rw [h.named i o.request o.state here alive further] at blank
      cases blank
    cases own : e.isOf i with
    | true =>
      rcases Event.isOf_iff.mp own with rfl | rfl
      · have ready : b.isReady (.opening i) = true := by
          simp [isReady, here, openReady, starting]
        simp only [Broker.step, ready, if_true] at there
        cases there.symm.trans (runOpen_blank here starting blank)
        cases pending
      · cases there.symm.trans (getElem?_abandonOpen here)
        cases pending
    | false =>
      rcases sound.openings_foreign own with same | ⟨missing, -⟩
      · have unmoved := Option.some.inj (here.symm.trans (same.symm.trans there))
        rw [unmoved] at starting
        exact started starting
      · rw [here] at missing
        cases missing

theorem step (h : b.Admitted) (sound : b.Sound) (e : Event) : (b.step e).Admitted where
  named i r state there := h.named_step sound e there
  temporary := by
    have moves := step_moves e sound.related
    generalize b.step e = b' at moves
    induction moves with
    | refl => exact h.temporary
    | tail _ move ih => exact fun i r guard place error here up => temporary_move move ih here up

theorem after (h : b.Admitted) (sound : b.Sound) (events : List Event) :
    (b.after events).Admitted := by
  induction events generalizing b with
  | nil => exact h
  | cons e rest ih => exact ih (h.step sound e) (sound.step e)

end Admitted

def verdict (b : Broker) (i : Nat) (r : Request) : OpenError :=
  match b.openings[i]?.map Opening.state with
  | some (.disposing _ _ _) => .capacityExceeded
  | _ => if r.key.isBlank then .invalidKey r.key else .closed

theorem Admitted.verdict (h : b.Admitted) (up : b.shutdown = false) (here : b.openings[i]? = some o)
    (answer : o.answer? = some (.error error)) :
    b.openings[i]? = some ⟨o.request, .refused error⟩ ∨ error = b.verdict i o.request := by
  rw [here]
  unfold Broker.verdict
  rw [here]
  cases state : o.state with
  | starting =>
    right
    rw [Opening.answer?, state] at answer
    cases answer
    simp [state]
  | queued guard | acquiring guard place a =>
    right
    rw [Opening.answer?, state] at answer
    cases answer
    have named := h.named i o.request o.state here (by rw [state]; rfl) (by rw [state]; nofun)
    simp [state, named]
  | disposing guard place error' =>
    right
    rw [Opening.answer?, state] at answer
    cases answer
    have temporary := h.temporary i o.request guard place error (by rw [here, ← state]) up
    simp [state, temporary]
  | refused error' =>
    left
    rw [Opening.answer?, state] at answer
    cases answer
    rw [← state]
  | opened | abandoned =>
    rw [Opening.answer?, state] at answer
    cases answer

end Broker

end Fanout
