import Fanout.Proofs.Broker.Aside
import Fanout.Proofs.Broker.Chain.Viewer

namespace Fanout

def Event.ofClose : Event → Bool
  | .close | .run (.close _) | .abandon (.close _) => true
  | _ => false

def Event.ofStop (i : Nat) : Event → Bool
  | .run (.stop j) | .abandon (.stop j) => j == i
  | _ => false

theorem Event.ofStop_iff {i : Nat} {e : Event} :
    e.ofStop i = true ↔ e = .run (.stop i) ∨ e = .abandon (.stop i) := by
  cases e with
  | run task => cases task <;> simp [ofStop]
  | abandon call => cases call <;> simp [ofStop]
  | _ => simp [ofStop]

namespace Broker

variable {b : Broker} {i j : Nat} {e : Event}

/-- The count of failed pulls, and how the calls stand that shut the broker down or stop a stream. -/
def figures (b : Broker) : Nat × List CloseState × List Stop := (b.pullsFailed, b.closes, b.stops)

/-- The broker without its streams, their locks, and the calls that stop one. -/
def visitors (b : Broker) : Broker := { b with registry := {}, locks := {}, stops := [] }

def outsiders (b : Broker) : Broker := { b with registry := {}, shutdown := false, closes := [] }

theorem figures_attach (b : Broker) (key : StreamKey) (attempts : Nat) :
    (b.attach key attempts).1.figures = b.figures := by
  induction attempts generalizing b with
  | zero => rfl
  | succ attempts ih =>
    unfold attach
    split
    · rfl
    · dsimp only
      split
      · rfl
      · exact ih _

theorem figures_detach (b : Broker) (place : SinkPlace) :
    (b.detach place).1.figures = b.figures := by
  unfold detach
  split <;> rfl

theorem figures_refuse (b : Broker) (i : Nat) (key : StreamKey) (guard : Nat)
    (place : SinkPlace) (error : OpenError) :
    (b.refuse i key guard place error).figures = b.figures := by
  rw [refuse_eq]
  generalize b.capacityRejections + _ = n
  have left := figures_detach { b with capacityRejections := n } place
  generalize { b with capacityRejections := n }.detach place = taken at left ⊢
  obtain ⟨m, attached⟩ := taken
  cases attached <;> exact left

theorem figures_acquire (b : Broker) (i : Nat) (r : Request) (guard : Nat) (place : SinkPlace)
    (a : Acquisition) : (b.acquire i r guard place a).figures = b.figures := by
  unfold acquire
  split
  · rfl
  · rfl
  · exact figures_refuse _ i r.key guard place _

theorem figures_enterOpen (b : Broker) (i : Nat) (r : Request) (guard : Nat) :
    (b.enterOpen i r guard).figures = b.figures := by
  have seated := figures_attach b r.key (b.registry.relays.length + 2)
  unfold enterOpen
  split
  · rename_i m place attached
    rw [attached] at seated
    exact (figures_acquire m i r guard place _).trans seated
  · rename_i m place attached
    rw [attached] at seated
    exact seated
  · rename_i m answer _ _ attached
    rw [attached] at seated
    exact seated

theorem figures_runOpen (b : Broker) (i : Nat) :
    (b.runOpen i).figures = b.figures := by
  unfold runOpen
  split
  · rfl
  · split
    · unfold startOpen
      split
      · rfl
      · split
        · rfl
        · dsimp only
          split
          · exact figures_enterOpen _ i _ _
          · rfl
    · exact figures_enterOpen b i _ _
    · split
      · exact figures_refuse _ i _ _ _ _
      · exact figures_acquire b i _ _ _ _
    · rfl
    · rfl

theorem figures_abandonOpen (b : Broker) (i : Nat) :
    (b.abandonOpen i).figures = b.figures := by
  cases here : b.openings[i]? with
  | none => simp only [abandonOpen, here]
  | some o =>
    cases matched : o.state with
    | acquiring guard place a =>
      obtain ⟨g, same, -⟩ := abandonOpen_acquiring here matched
      rw [same]
      rfl
    | _ =>
      simp only [abandonOpen, here, matched]
      rfl

theorem figures_runDeparture (b : Broker) (i : Nat) :
    (b.runDeparture i).figures = b.figures := by
  have entered (b : Broker) (d : Departure) (guard : Nat) :
      (b.enterDeparture i d guard).figures = b.figures := by
    have left := figures_detach b d.place
    obtain ⟨m, attached, detached⟩ : ∃ m attached, b.detach d.place = (m, attached) := ⟨_, _, rfl⟩
    unfold enterDeparture
    rw [detached] at left ⊢
    cases attached <;> exact left
  unfold runDeparture
  split
  · rfl
  · split
    · dsimp only
      split
      · exact entered _ _ _
      · rfl
    · exact entered b _ _
    · rfl
    · rfl

theorem visitors_runStop (b : Broker) (i : Nat) : (b.runStop i).visitors = b.visitors := by
  have entered (b : Broker) (key : StreamKey) (guard : Nat) :
      (b.enterStop i key guard).visitors = b.visitors := by
    unfold enterStop
    dsimp only
    split
    · rfl
    · split <;> rfl
  unfold runStop
  split
  · rfl
  · split
    · dsimp only
      split
      · exact entered _ _ _
      · rfl
    · exact entered b _ _
    · rfl
    · rfl

theorem visitors_abandonStop (b : Broker) (i : Nat) : (b.abandonStop i).visitors = b.visitors := by
  unfold abandonStop
  repeat' split
  all_goals rfl

theorem stop_other {j : Nat} (b : Broker) (state : StopState) (differs : i ≠ j) :
    (b.setStop i state).stops[j]? = b.stops[j]? := by
  simp [setStop, differs]

theorem runStop_other {j : Nat} (b : Broker) (differs : i ≠ j) :
    (b.runStop i).stops[j]? = b.stops[j]? := by
  have entered (b : Broker) (key : StreamKey) (guard : Nat) :
      (b.enterStop i key guard).stops[j]? = b.stops[j]? := by
    unfold enterStop
    dsimp only
    split
    · exact stop_other _ _ differs
    · split
      · exact stop_other _ _ differs
      · exact stop_other _ _ differs
  unfold runStop
  split
  · rfl
  · split
    · dsimp only
      split
      · exact entered _ _ _
      · exact stop_other _ _ differs
    · exact entered b _ _
    · exact stop_other _ _ differs
    · rfl

theorem abandonStop_other {j : Nat} (b : Broker) (differs : i ≠ j) :
    (b.abandonStop i).stops[j]? = b.stops[j]? := by
  unfold abandonStop
  repeat' split
  all_goals first | rfl | exact stop_other _ _ differs

theorem outsiders_runClose (b : Broker) (i : Nat) : (b.runClose i).outsiders = b.outsiders := by
  have drained (b : Broker) : (b.drain i).outsiders = b.outsiders := by
    unfold drain
    split <;> rfl
  unfold runClose
  split
  · split
    · rfl
    · dsimp only
      split
      · exact drained _
      · rfl
  · exact drained b
  · rfl
  · rfl

theorem outsiders_abandonClose (b : Broker) (i : Nat) :
    (b.abandonClose i).outsiders = b.outsiders := by
  unfold abandonClose
  repeat' split
  all_goals rfl

theorem figures_runSweeper (b : Broker) (i : Nat) :
    (b.runSweeper i).figures = b.figures := by
  unfold runSweeper
  repeat' split
  all_goals rfl

/-- What an event has to do with the figures. -/
inductive Concern (b : Broker) (e : Event) : Prop
  | pull (i : Nat) (own : e.ofPull i = true)
  | stop (i : Nat) (own : e.ofStop i = true)
  | close (own : e.ofClose = true)
  | asked (key : StreamKey) (asks : e = .stop key)
  | none (same : (b.step e).figures = b.figures)

theorem concern (b : Broker) (e : Event) : b.Concern e := by
  cases e with
  | stop key => exact .asked key rfl
  | close => exact .close rfl
  | turn i t => exact .pull i (by simp [Event.ofPull])
  | request | sweep | sweeper | token | cancel | tick => exact .none rfl
  | read i most =>
    apply Concern.none
    simp only [step, read]
    split <;> rfl
  | dropReader i =>
    apply Concern.none
    simp only [step, loseReader]
    split <;> rfl
  | command name c =>
    apply Concern.none
    simp only [step, command]
    split <;> rfl
  | abandon call =>
    cases call with
    | opening i => exact .none (figures_abandonOpen b i)
    | stop i => exact .stop i (by simp [Event.ofStop])
    | close i => exact .close rfl
    | _ => exact .none rfl
  | run task =>
    cases task with
    | pull i | watcher i => exact .pull i (by simp [Event.ofPull])
    | stop i => exact .stop i (by simp [Event.ofStop])
    | close i => exact .close rfl
    | opening i =>
      apply Concern.none
      simp only [step]
      split
      · exact figures_runOpen b i
      · rfl
    | departure i =>
      apply Concern.none
      simp only [step]
      split
      · exact figures_runDeparture b i
      · rfl
    | sweeper i =>
      apply Concern.none
      simp only [step]
      split
      · exact figures_runSweeper b i
      · rfl
    | delivery place | closer place =>
      apply Concern.none
      simp only [step]
      split <;> rfl

theorem step_visitors (own : e.ofStop i = true) : (b.step e).visitors = b.visitors := by
  rcases Event.ofStop_iff.mp own with rfl | rfl
  · simp only [step]
    split
    · exact visitors_runStop b i
    · rfl
  · exact visitors_abandonStop b i

theorem step_outsiders (own : e.ofClose = true) : (b.step e).outsiders = b.outsiders := by
  cases e with
  | close => rfl
  | run task =>
    cases task with
    | close i =>
      simp only [step]
      split
      · exact outsiders_runClose b i
      · rfl
    | _ => cases own
  | abandon call =>
    cases call with
    | close i => exact outsiders_abandonClose b i
    | _ => cases own
  | _ => cases own

theorem stops_other (own : e.ofStop j = true) (differs : j ≠ i) :
    (b.step e).stops[i]? = b.stops[i]? := by
  rcases Event.ofStop_iff.mp own with rfl | rfl
  · simp only [step]
    split
    · exact runStop_other b differs
    · rfl
  · exact abandonStop_other b differs

theorem step_calls (own : e.ofPull i = true) :
    (b.step e).closes = b.closes ∧ (b.step e).stops = b.stops := by
  cases here : b.pulls[i]? with
  | none =>
    rw [step_absent own here]
    exact ⟨rfl, rfl⟩
  | some p =>
    have same := (step_aside own here).bystanders
    exact ⟨(congrArg closes same :), (congrArg stops same :)⟩

theorem pullsFailed_foreign (foreign : ∀ i, e.ofPull i = false) :
    (b.step e).pullsFailed = b.pullsFailed := by
  rcases b.concern e with ⟨i, own⟩ | ⟨i, own⟩ | own | ⟨key, rfl⟩ | same
  · rw [foreign i] at own
    cases own
  · exact (congrArg pullsFailed (step_visitors own) :)
  · exact (congrArg pullsFailed (step_outsiders own) :)
  · rfl
  · exact congrArg (·.1) same

theorem closes_foreign (foreign : e.ofClose = false) : (b.step e).closes = b.closes := by
  rcases b.concern e with ⟨i, own⟩ | ⟨i, own⟩ | own | ⟨key, rfl⟩ | same
  · exact (step_calls own).1
  · exact (congrArg closes (step_visitors own) :)
  · rw [foreign] at own
    cases own
  · rfl
  · exact congrArg (·.2.1) same

theorem stops_foreign (foreign : e.ofStop i = false) :
    (b.step e).stops[i]? = b.stops[i]? ∨
      b.stops[i]? = none ∧ ∃ key, e = .stop key ∧ (b.step e).stops[i]? = some { key := key } := by
  rcases b.concern e with ⟨k, own⟩ | ⟨j, own⟩ | own | ⟨key, rfl⟩ | same
  · exact .inl (by rw [(step_calls own).2])
  · refine .inl (stops_other own ?_)
    rintro rfl
    rw [foreign] at own
    cases own
  · exact .inl (congrArg (·.stops[i]?) (step_outsiders own) :)
  · rw [show (b.step (.stop key)).stops = b.stops ++ [{ key := key }] from rfl]
    by_cases small : i < b.stops.length
    · exact .inl (List.getElem?_append_left small)
    · have none := List.getElem?_eq_none_iff.mpr (Nat.le_of_not_lt small)
      rw [none]
      by_cases next : i = b.stops.length
      · exact .inr ⟨rfl, key, rfl, by simp [next]⟩
      · exact .inl (List.getElem?_eq_none_iff.mpr (by simp; omega))
  · exact .inl (congrArg (·.2.2[i]?) same)

end Broker

end Fanout
