import Fanout.Proofs.Broker.Caps
import Fanout.Proofs.Broker.Failures
import Fanout.Proofs.Broker.Footprint

namespace Fanout

def Event.isOf (i : Nat) : Event → Bool
  | .run (.opening j) | .abandon (.opening j) => j == i
  | _ => false

theorem Event.isOf_iff {i : Nat} {e : Event} :
    e.isOf i = true ↔ e = .run (.opening i) ∨ e = .abandon (.opening i) := by
  cases e with
  | run task => cases task <;> simp [isOf]
  | abandon call => cases call <;> simp [isOf]
  | _ => simp [isOf]

namespace Broker

variable {b b' m m' : Broker} {i : Nat} {e : Event} {o o' : Opening} {r : Request}

theorem getElem?_abandonOpen (here : b.openings[i]? = some o) :
    (b.abandonOpen i).openings[i]? = some ⟨o.request, .abandoned⟩ := by
  cases matched : o.state with
  | acquiring guard place a =>
    obtain ⟨g, same, -⟩ := abandonOpen_acquiring here matched
    rw [same]
    exact getElem?_setOpening (b := { b with limits := _, registry := g }.leave guard) here _
  | _ =>
    simp only [abandonOpen, here, matched]
    exact getElem?_setOpening here _

theorem abandonOpen_other {j : Nat} (differs : i ≠ j) :
    (b.abandonOpen j).openings[i]? = b.openings[i]? := by
  cases here : b.openings[j]? with
  | none => simp only [abandonOpen, here]
  | some o =>
    cases matched : o.state with
    | acquiring guard place a =>
      obtain ⟨g, same, -⟩ := abandonOpen_acquiring here matched
      rw [same]
      exact opening_other ({ b with limits := _, registry := g }.leave guard) _ differs
    | _ =>
      simp only [abandonOpen, here, matched]
      exact opening_other _ _ differs

theorem openings_kept (related : ∀ p ∈ b.pulls, ∃ s, b.roster? p.relay = some s)
    (moved : ∀ m m', e.mover m m' → m'.openings[i]? = m.openings[i]?) :
    (b.step e).openings[i]? = b.openings[i]? := by
  have chain := step_chain e related
  generalize b.step e = b' at chain
  induction chain with
  | refl => rfl
  | tail earlier last ih =>
    rcases last with same | move
    · rw [same.openings, ih]
    · rw [moved _ _ move, ih]

theorem openings_foreign (related : ∀ p ∈ b.pulls, ∃ s, b.roster? p.relay = some s)
    (foreign : e.isOf i = false) :
    (b.step e).openings[i]? = b.openings[i]? ∨
      b.openings[i]? = none ∧ ∃ r, (b.step e).openings[i]? = some ⟨r, .starting⟩ := by
  cases e with
  | request r =>
    rw [show (b.step (.request r)).openings = b.openings ++ [{ request := r }] from rfl]
    by_cases small : i < b.openings.length
    · exact .inl (List.getElem?_append_left small)
    · have none := List.getElem?_eq_none_iff.mpr (Nat.le_of_not_lt small)
      rw [none]
      by_cases next : i = b.openings.length
      · exact .inr ⟨rfl, r, by simp [next]⟩
      · exact .inl (List.getElem?_eq_none_iff.mpr (by simp; omega))
  | stop | close | sweep | sweeper | token | cancel | tick => exact .inl rfl
  | read j most =>
    left
    simp only [Broker.step, read]
    split <;> rfl
  | dropReader j =>
    left
    simp only [Broker.step, loseReader]
    split <;> rfl
  | command name c =>
    left
    simp only [Broker.step, command]
    split <;> rfl
  | turn j t => exact .inl (openings_kept related fun m m' move => by cases move <;> rfl)
  | abandon call =>
    left
    cases call with
    | opening j => exact abandonOpen_other fun same => by simp [Event.isOf, same] at foreign
    | stop j => exact openings_kept related fun m m' move => by cases move <;> rfl
    | close j =>
      simp only [Broker.step, abandon, abandonClose]
      split <;> rfl
    | _ => rfl
  | run task =>
    left
    cases task with
    | opening j =>
      have differs : i ≠ j := fun same => by simp [Event.isOf, same] at foreign
      exact openings_kept related fun m m' move => OpenMove.other move differs
    | departure j => exact openings_kept related fun m m' move => by cases move <;> rfl
    | pull j => exact openings_kept related fun m m' move => by cases move <;> rfl
    | watcher j => exact openings_kept related fun m m' move => by cases move <;> rfl
    | stop j => exact openings_kept related fun m m' move => by cases move <;> rfl
    | close j =>
      simp only [Broker.step, Broker.run]
      split
      · exact (congrArg (·.openings[i]?) (outsiders_runClose b j) :)
      · rfl
    | sweeper j =>
      simp only [Broker.step, run, runSweeper]
      repeat' split
      all_goals rfl
    | delivery place | closer place =>
      simp only [Broker.step, Broker.run]
      split <;> rfl

theorem Sound.openings_foreign (h : b.Sound) (foreign : e.isOf i = false) :
    (b.step e).openings[i]? = b.openings[i]? ∨
      b.openings[i]? = none ∧ ∃ r, (b.step e).openings[i]? = some ⟨r, .starting⟩ :=
  Broker.openings_foreign h.related foreign

theorem runOpen_of_ended (here : b.openings[i]? = some o) (ended : o.state.pending = false) :
    b.runOpen i = b := by
  simp only [runOpen, here]
  cases matched : o.state <;> simp [OpenState.pending, matched] at ended ⊢

theorem Sound.opening_step (h : b.Sound) (e : Event) (here : b.openings[i]? = some o) :
    ∃ state, (b.step e).openings[i]? = some ⟨o.request, state⟩ ∧
      (o.state.pending = false → state.pending = false) := by
  by_cases own : e.isOf i = true
  · rcases Event.isOf_iff.mp own with rfl | rfl
    · cases pending : o.state.pending with
      | true =>
        obtain ⟨state, there⟩ := h.along (.run (.opening i))
          (P := fun m => ∃ state, m.openings[i]? = some ⟨o.request, state⟩) ⟨o.state, here⟩
          (fun m m' same there => same.openings ▸ there)
          (fun m m' _ move ⟨state, there⟩ => by
            have requests := congrArg (·[i]?) (OpenMove.requests move)
            rw [List.getElem?_map, List.getElem?_map, there, Option.map_some,
              Option.map_eq_some_iff] at requests
            obtain ⟨⟨r, state'⟩, there', rfl⟩ := requests
            exact ⟨state', there'⟩)
        exact ⟨state, there, nofun⟩
      | false =>
        refine ⟨o.state, ?_, fun _ => pending⟩
        simp only [Broker.step, Broker.run, runOpen_of_ended here pending, ite_self]
        exact here
    · exact ⟨.abandoned, getElem?_abandonOpen here, fun _ => rfl⟩
  · rcases h.openings_foreign (by simpa using own) with same | ⟨missing, -⟩
    · exact ⟨o.state, same.trans here, id⟩
    · rw [here] at missing
      cases missing

theorem Sound.pending_back (h : b.Sound) (events : List Event) (here : b.openings[i]? = some o)
    (there : (b.after events).openings[i]? = some o') (pending : o'.state.pending = true) :
    o.request = o'.request ∧ o.state.pending = true := by
  induction events generalizing b o with
  | nil =>
    cases here.symm.trans there
    exact ⟨rfl, pending⟩
  | cons e rest ih =>
    obtain ⟨state, next, ended⟩ := h.opening_step e here
    obtain ⟨request, alive⟩ := ih (h.step e) next there
    refine ⟨request, ?_⟩
    by_contra dead
    rw [ended (by simpa using dead)] at alive
    cases alive

/-- How much a figure has grown in the steps of the open at `i`. -/
def growth (figure : Broker → Nat) (i : Nat) (b : Broker) : List Event → Nat
  | [] => 0
  | e :: rest =>
    (if e.isOf i then figure (b.step e) - figure b else 0) + growth figure i (b.step e) rest

theorem growth_append (figure : Broker → Nat) (i : Nat) (b : Broker) (first second : List Event) :
    growth figure i b (first ++ second) =
      growth figure i b first + growth figure i (b.after first) second := by
  induction first generalizing b with
  | nil => simp [growth]
  | cons e rest ih => simp [growth, ih, Nat.add_assoc]

theorem abandonOpen_rejections (b : Broker) (i : Nat) :
    (b.abandonOpen i).capacityRejections = b.capacityRejections := by
  cases here : b.openings[i]? with
  | none => simp only [abandonOpen, here]
  | some o =>
    cases matched : o.state with
    | acquiring guard place a =>
      obtain ⟨g, same, -⟩ := abandonOpen_acquiring here matched
      rw [same]
      rfl
    | _ =>
      simp only [abandonOpen, here, matched]
      rfl

theorem Sound.counted_run (h : b.Sound) (i : Nat) :
    ∃ n, (b.step (.run (.opening i))).capacityRejections = b.capacityRejections + n ∧
      (b.step (.run (.opening i))).rejections i = b.rejections i + n := by
  have counted : ∃ n, (b.runOpen i).capacityRejections = b.capacityRejections + n ∧
      (b.runOpen i).rejections i = b.rejections i + n := by
    cases here : b.openings[i]? with
    | none => exact ⟨0, by simp only [runOpen, here]; exact ⟨rfl, rfl⟩⟩
    | some o =>
      obtain ⟨r, state⟩ := o
      cases pending : state.pending with
      | false => exact ⟨0, by rw [runOpen_of_ended here pending]; exact ⟨rfl, rfl⟩⟩
      | true =>
        cases state with
        | disposing guard place error =>
          rw [runOpen_disposing here, rejections_of_opening (getElem?_endRefusal here),
            rejections_of_opening here]
          exact ⟨0, rfl, rfl⟩
        | starting | queued guard | acquiring guard place a =>
          have advances := (h.runOpen_advances here pending (by simp)).counted
          rw [rejections_of_opening here]
          exact ⟨_, advances, (Nat.zero_add _).symm⟩
        | refused error | opened place k | abandoned => cases pending
  simp only [Broker.step, Broker.run]
  split
  · exact counted
  · exact ⟨0, rfl, rfl⟩

theorem Sound.rejections_foreign (h : b.Sound) (foreign : e.isOf i = false) :
    (b.step e).rejections i = b.rejections i := by
  unfold rejections
  rcases h.openings_foreign foreign with same | ⟨missing, r, asked⟩
  · rw [same]
  · rw [missing, asked]
    rfl

theorem Sound.growth_rejections (h : b.Sound) (events : List Event)
    (there : (b.after events).openings[i]? = some o) (pending : o.state.pending = true) :
    growth (·.capacityRejections) i b events + b.rejections i =
      (b.after events).rejections i := by
  induction events generalizing b with
  | nil => exact Nat.zero_add _
  | cons e rest ih =>
    have later := ih (h.step e) there
    rw [after_cons, ← later, growth]
    by_cases own : e.isOf i = true
    · rw [if_pos own]
      rcases Event.isOf_iff.mp own with rfl | rfl
      · obtain ⟨n, counted, rejected⟩ := h.counted_run i
        omega
      · cases here : b.openings[i]? with
        | none =>
          have still : b.step (.abandon (.opening i)) = b := by
            simp only [Broker.step, abandon, abandonOpen, here]
          rw [still]
          omega
        | some o' =>
          obtain ⟨-, alive⟩ := (h.step (.abandon (.opening i))).pending_back rest
            (getElem?_abandonOpen here) there pending
          cases alive
    · have foreign := h.rejections_foreign (by simpa using own)
      rw [if_neg own]
      omega

end Broker

end Fanout
