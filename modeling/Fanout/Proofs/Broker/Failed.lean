import Fanout.Proofs.Broker.Accounted
import Fanout.Proofs.Broker.Successor

namespace Fanout

open Fanout.Units Fanout.Limits

def OpenState.failed : OpenState → Bool
  | .refused _ | .abandoned => true
  | _ => false

theorem OpenState.guard?_of_failed {state : OpenState} (failed : state.failed = true) :
    state.guard? = none := by
  cases state <;> first | rfl | cases failed

theorem OpenState.pending_of_failed {state : OpenState} (failed : state.failed = true) :
    state.pending = false := by
  cases state <;> first | rfl | cases failed

namespace Broker

variable {b b' m m' : Broker} {i : Nat} {r : Request} {before after : OpenState} {e : Event}
  {events : List Event} {key : StreamKey} {place : SinkPlace}

/-- With the step `e` the open at `i`, which was still pending, fails. -/
structure Fails (b : Broker) (e : Event) (i : Nat) (r : Request) (before after : OpenState) :
    Prop where
  here : b.openings[i]? = some ⟨r, before⟩
  pending : before.pending = true
  there : (b.step e).openings[i]? = some ⟨r, after⟩
  failed : after.failed = true

inductive OwnStep (i : Nat) : Broker → List Event → Broker → Broker → Prop
  | now {b : Broker} {e : Event} {rest : List Event} (own : e.isOf i = true) :
      OwnStep i b (e :: rest) b (b.step e)
  | later {b m m' : Broker} {e : Event} {rest : List Event}
      (step : OwnStep i (b.step e) rest m m') : OwnStep i b (e :: rest) m m'

/-- The units that everybody but the open at `i` holds. -/
def heldByOthers (b : Broker) (i : Nat) : List Units :=
  b.pulls.flatMap (·.held) ++ (b.openings.eraseIdx i).flatMap Opening.held

/-- The open is refused for want of units, or dropped after that, before its sink has ended. -/
def Rejected (before after : OpenState) : Prop :=
  after = .refused .capacityExceeded ∨
    after = .abandoned ∧ ∃ guard place, before = .disposing guard place .capacityExceeded

/-- Nobody is in the way of the next viewer of the key. -/
structure LeavesRoom (b : Broker) (key : StreamKey) : Prop where
  empty : ∀ k, b.registry.find? key = some k →
    ∃ relay, b.registry.relays[k]? = some relay ∧ relay.isEmpty = true
  next : ∀ (later : List Event) (e : Event) (j : Nat) r place k, r.key = key →
    (∀ p ∈ (b.after later).pulls.drop b.pulls.length, p.key ≠ key) → ¬ (b.after later).Answered j →
      ((b.after later).step e).openings[j]? = some ⟨r, .opened place k⟩ →
        Begins key place (b.after later) ((b.after later).step e)

/-- What an open leaves behind that has failed in the last step of a run of `b`, from `before` to
`after`. -/
structure LeavesNothing (b : Broker) (events : List Event) (i : Nat) (r : Request)
    (before after : OpenState) : Prop where
  /-- Whoever was attached by the open is not attached any more, and never will be again. -/
  viewers : ∀ m m', OwnStep i b events m m' → ∀ place, m'.attached place = true →
    m.attached place = false → ∀ later, ((b.after events).after later).attached place = false
  /-- No step of the open has touched a pull, or a relay of another key. -/
  steps : ∀ m m', OwnStep i b events m m' → Footprint i r.key m m'
  /-- The accounts of the limits are balanced without the open. -/
  units : ∀ (n : Nat) l, (b.after events).limits[n]? = some l →
    l.acquired = l.released + countAt n ((b.after events).heldByOthers i) ∧
      l.spare + weightAt n ((b.after events).heldByOthers i) = l.capacity
  claims : ∀ n ticket, Claimed (b.after events).limits n ticket →
    ∃ (j : Nat) (o : Opening), j ≠ i ∧ (b.after events).openings[j]? = some o ∧
      o.filing? = some (n, ticket)
  locks : ∀ g ∈ (b.after events).locks.guards, ∃ task s, task ≠ .opening i ∧
    (b.after events).stake? task = some s ∧ s.guard = g.id ∧ s.key = g.key
  rejected : Rejected before after → growth (·.capacityRejections) i b events = 1
  unrejected : ¬ Rejected before after → growth (·.capacityRejections) i b events = 0
  unregistered : after = .refused .capacityExceeded →
    (b.after events).registry.find? r.key = none
  room : after = .abandoned → before.place?.isSome = true → (b.after events).LeavesRoom r.key

namespace Fails

theorem not_still (fails : b.Fails e i r before after)
    (same : (b.step e).openings[i]? = b.openings[i]?) : False := by
  cases fails.there.symm.trans (same.trans fails.here)
  have ended := OpenState.pending_of_failed fails.failed
  rw [fails.pending] at ended
  cases ended

theorem cases (fails : b.Fails e i r before after) (h : b.Sound) :
    (e = .run (.opening i) ∧ ∃ error, after = .refused error) ∨
      e = .abandon (.opening i) ∧ after = .abandoned := by
  have own : e.isOf i = true := by
    by_contra foreign
    rcases h.openings_foreign (by simpa using foreign) with same | ⟨missing, -⟩
    · exact fails.not_still same
    · rw [fails.here] at missing
      cases missing
  rcases Event.isOf_iff.mp own with rfl | rfl
  -- a run of the open refuses it: none of its moves gives the open up
  · have unabandoned := h.along (.run (.opening i))
      (P := fun m => m.openings[i]? ≠ some ⟨r, .abandoned⟩)
      (fun given => by
        cases fails.here.symm.trans given
        cases fails.pending)
      (fun m m' same still given => still (same.openings ▸ given))
      (fun m m' _ move _ given => by
        obtain ⟨o, state, here, -, set, kept⟩ := OpenMove.sets move
        cases (opening_of_set here set).symm.trans given
        exact kept rfl)
    have failed := fails.failed
    cases after with
    | refused error => exact .inl ⟨rfl, error, rfl⟩
    | abandoned => exact absurd fails.there unabandoned
    | starting | queued guard | acquiring guard place a | disposing guard place error
    | opened place k => cases failed
  · have there := fails.there
    cases there.symm.trans (getElem?_abandonOpen fails.here)
    exact .inr ⟨rfl, rfl⟩

theorem own (fails : b.Fails e i r before after) (h : b.Sound) : e.isOf i = true := by
  rcases fails.cases h with ⟨rfl, -⟩ | ⟨rfl, -⟩
  · exact Event.isOf_iff.mpr (.inl rfl)
  · exact Event.isOf_iff.mpr (.inr rfl)

theorem unanswered (fails : b.Fails e i r before after) : ¬ (b.step e).Answered i := by
  rintro ⟨r', place, k, answered⟩
  cases fails.there.symm.trans answered
  cases fails.failed

theorem not_waits (fails : b.Fails e i r before after) : ¬ (b.step e).Waits i place := by
  rintro ⟨r', guard, a, waits⟩
  cases fails.there.symm.trans waits
  cases fails.failed

theorem gone (fails : b.Fails e i r before after) (h : b.Sound) (waits : b.Waits i place) :
    (b.step e).Gone place := by
  rcases h.gone_or_waits e waits with gone | waits | answered
  · exact gone
  · exact absurd waits fails.not_waits
  · exact absurd answered fails.unanswered

end Fails

theorem Tidy.own_footprint (h : m.Tidy) (own : e.isOf i = true)
    (alive : ∀ o, m.openings[i]? = some o → o.request = r ∧ o.state.pending = true)
    (unanswered : ¬ (m.step e).Answered i) : Footprint i r.key m (m.step e) := by
  rcases Event.isOf_iff.mp own with rfl | rfl
  · simp only [Broker.step, Broker.run] at unanswered ⊢
    split
    · rename_i ready
      rw [if_pos ready] at unanswered
      cases here : m.openings[i]? with
      | none =>
        simp only [runOpen, here]
        exact .refl m
      | some o =>
        obtain ⟨rfl, pending⟩ := alive o here
        exact (h.runOpen_footprint here pending).resolve_right unanswered
    · exact .refl m
  · simp only [Broker.step, abandon]
    cases here : m.openings[i]? with
    | none =>
      simp only [abandonOpen, here]
      exact .refl m
    | some o =>
      obtain ⟨rfl, pending⟩ := alive o here
      exact h.abandonOpen_footprint here pending

theorem OwnStep.spec (step : OwnStep i b (events ++ [e]) m m') (h : b.Tidy)
    (fails : (b.after events).Fails e i r before after) :
    Footprint i r.key m m' ∧ ∀ place, m'.attached place = true → m.attached place = false →
      ((b.after events).step e).Gone place := by
  induction events generalizing b with
  | nil =>
    -- the last step leaves no viewer that it has attached itself
    cases step with
    | now own =>
      refine ⟨h.own_footprint own (fun o here => ?_) fails.unanswered, fun place present absent => ?_⟩
      · cases here.symm.trans fails.here
        exact ⟨rfl, fails.pending⟩
      · exfalso
        rcases h.sound.newcomer own present absent with waits | answered
        · exact fails.not_waits waits
        · exact fails.unanswered answered
    | later step => cases step
  | cons x rest ih =>
    have next := h.after [x]
    cases step with
    | later step => exact ih step next fails
    | now own =>
      have unanswered : ¬ (m.step x).Answered i := by
        rintro ⟨r', place, k, answered⟩
        obtain ⟨-, alive⟩ := next.sound.pending_back rest answered fails.here fails.pending
        cases alive
      refine ⟨h.own_footprint own (fun o here => ?_) unanswered, fun place present absent => ?_⟩
      · exact h.sound.pending_back (x :: rest) here fails.here fails.pending
      -- the viewer waits from here on, and the last step takes it off if nobody has done so before
      · have waits := (h.sound.newcomer own present absent).resolve_right unanswered
        have sound := next.sound.after rest
        rcases next.sound.gone_or_waits_after rest waits fails.here fails.pending with gone | waits
        · exact gone.after sound [e]
        · exact fails.gone sound waits

theorem Vacated.leavesRoom {j : Nat} (h : b.Vacated key j) (sound : b.Sound) :
    b.LeavesRoom key where
  empty k entry := by
    obtain ⟨rfl, empty⟩ := h.entry k entry
    obtain ⟨s, old, -⟩ := h.relay
    obtain ⟨relay, there, rfl⟩ := Registry.relay_of_roster? old
    exact ⟨relay, there, Relay.isEmpty_iff.mpr (empty _ old)⟩
  next later e j r place k named none unanswered answered := by
    have moves := sound.moves_after later
    have lines (k : Nat) (line : (key, k) ∈ (b.after later).pulls.map Pull.line) :
        (key, k) ∈ b.pulls.map Pull.line := by
      rw [← List.take_append_drop b.pulls.length (b.after later).pulls, List.map_append,
        List.mem_append] at line
      rcases line with old | new
      · have first := List.prefix_iff_eq_take.mp moves.lines
        rw [List.length_map, ← List.map_take] at first
        exact first ▸ old
      · obtain ⟨p, member, same⟩ := List.mem_map.mp new
        exact absurd (congrArg Prod.fst same) (none p member)
    have unjoinable := h.pulls.later sound.pullsFit (moves.onward sound.listed).later lines
    subst named
    exact (sound.after later).begins unjoinable unanswered answered

namespace Fails

theorem ran (fails : b.Fails (.run (.opening i)) i r before after) :
    b.step (.run (.opening i)) = b.runOpen i := by
  simp only [Broker.step, Broker.run]
  split
  · rfl
  · rename_i idle
    have same : b.step (.run (.opening i)) = b := if_neg idle
    exact (fails.not_still (by rw [same])).elim

theorem unregistered (fails : b.Fails e i r before (.refused .capacityExceeded)) (h : b.Tidy) :
    (b.step e).registry.find? r.key = none := by
  rcases fails.cases h.sound with ⟨rfl, -⟩ | ⟨-, other⟩
  · have there := fails.there
    rw [fails.ran] at there ⊢
    -- the answer comes only after the viewer's sink has ended
    cases before with
    | disposing guard place error =>
      rw [runOpen_disposing fails.here]
      exact (h.disposing i r guard place error fails.here).find?_endRefusal
    | starting | queued guard | acquiring guard place a =>
      have waits := (h.sound.runOpen_advances fails.here fails.pending nofun).waits r
      exact absurd there waits
    | refused error | opened place k | abandoned => cases fails.pending
  · cases other

theorem growth_eq (fails : (b.after events).Fails e i r before after) (h : b.Sound)
    (fresh : b.openings = []) :
    after = .abandoned ∧ growth (·.capacityRejections) i b (events ++ [e]) = before.rejections ∨
      (∃ error, after = .refused error) ∧
        growth (·.capacityRejections) i b (events ++ [e]) = after.rejections := by
  have sound := h.after events
  have none : b.rejections i = 0 := by simp [rejections, fresh]
  have counted := h.growth_rejections events fails.here fails.pending
  rw [none, Nat.add_zero, rejections_of_opening fails.here] at counted
  have last := growth_append (·.capacityRejections) i b events [e]
  simp only [growth, if_pos (fails.own sound), Nat.add_zero] at last
  rcases fails.cases sound with ⟨rfl, refused⟩ | ⟨rfl, dropped⟩
  · obtain ⟨n, grown, shown⟩ := sound.counted_run i
    rw [rejections_of_opening fails.there, rejections_of_opening fails.here] at shown
    have total : growth (·.capacityRejections) i b (events ++ [.run (.opening i)]) =
        after.rejections := by
      rw [last, counted, grown, shown]
      omega
    exact .inr ⟨refused, total⟩
  · have still : ((b.after events).step (.abandon (.opening i))).capacityRejections =
        (b.after events).capacityRejections := abandonOpen_rejections _ i
    rw [still, Nat.sub_self, Nat.add_zero, counted] at last
    exact .inl ⟨dropped, last⟩

theorem counted (fails : (b.after events).Fails e i r before after) (h : b.Sound)
    (fresh : b.openings = []) :
    Rejected before after ∧ growth (·.capacityRejections) i b (events ++ [e]) = 1 ∨
      ¬ Rejected before after ∧ growth (·.capacityRejections) i b (events ++ [e]) = 0 := by
  have pending := fails.pending
  rcases fails.growth_eq h fresh with ⟨rfl, total⟩ | ⟨⟨error, rfl⟩, total⟩
  · rw [total]
    cases before with
    | disposing guard place error =>
      cases error with
      | capacityExceeded => exact .inl ⟨.inr ⟨rfl, guard, place, rfl⟩, rfl⟩
      | invalidKey | closed => exact .inr ⟨by simp [Rejected], rfl⟩
    | starting | queued guard | acquiring guard place a => exact .inr ⟨by simp [Rejected], rfl⟩
    | refused error | opened place k | abandoned => cases pending
  · rw [total]
    cases error with
    | capacityExceeded => exact .inl ⟨.inl rfl, rfl⟩
    | invalidKey | closed => exact .inr ⟨by simp [Rejected], rfl⟩

theorem room (fails : b.Fails e i r before .abandoned) (h : b.Tidy)
    (seated : before.place?.isSome = true) : (b.step e).LeavesRoom r.key := by
  obtain ⟨place, seated⟩ := Option.isSome_iff_exists.mp seated
  rcases fails.cases h.sound with ⟨-, error, refused⟩ | ⟨rfl, -⟩
  · cases refused
  · exact (h.vacated_of_dropped fails.here seated).leavesRoom (h.sound.step _)

theorem claims (fails : b.Fails e i r before after) (accounted : (b.step e).Accounted) {n ticket : Nat}
    (claimed : Claimed (b.step e).limits n ticket) :
    ∃ (j : Nat) (o : Opening), j ≠ i ∧ (b.step e).openings[j]? = some o ∧
      o.filing? = some (n, ticket) := by
  obtain ⟨o, member, files⟩ := accounted n ticket claimed
  obtain ⟨j, there⟩ := List.mem_iff_getElem?.mp member
  refine ⟨j, o, ?_, there, files⟩
  rintro rfl
  cases there.symm.trans fails.there
  rw [Opening.filing?_of_guardless (OpenState.guard?_of_failed fails.failed)] at files
  cases files

theorem locks (fails : b.Fails e i r before after) (owned : (b.step e).Owned) {g : Guard}
    (living : g ∈ (b.step e).locks.guards) : ∃ task s, task ≠ .opening i ∧
      (b.step e).stake? task = some s ∧ s.guard = g.id ∧ s.key = g.key := by
  obtain ⟨task, s, staked, facts⟩ := owned g living
  refine ⟨task, s, ?_, staked, facts⟩
  rintro rfl
  rw [stake?_of_opening fails.there] at staked
  have failed := fails.failed
  cases after with
  | refused error | abandoned => cases staked
  | starting | queued guard | acquiring guard place a | disposing guard place error
  | opened place k => cases failed

theorem held (fails : b.Fails e i r before after) :
    (b.step e).heldByOthers i = (b.step e).held := by
  have empty := Opening.held_of_guardless (o := ⟨r, after⟩)
    (OpenState.guard?_of_failed fails.failed)
  rw [heldByOthers, Broker.held, flatMap_eraseIdx empty fails.there]

end Fails

def lining : List Event :=
  [.request { key := ⟨"h"⟩, feed := .plain {}, limits := [0], token := 0 }, .run (.opening 0),
    .request { key := ⟨"k"⟩, feed := .plain {}, limits := [0], token := 0 }, .run (.opening 1)]

def expire : List Event := [.tick 5000, .run (.opening 1)]

def turnedDown : List Event :=
  [.run (.delivery (1, 1)), .run (.closer (1, 1)), .run (.opening 1)]

/-- Somebody who has got hold of a relay adds a viewer to it without asking the broker. -/
def intrude (r : Relay) : Relay := ((r.add { capacity := 64 }).map (·.1)).getD r

end Broker

end Fanout
