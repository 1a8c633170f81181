import Fanout.Schedule
import Mathlib.Logic.Relation

namespace Fanout.Machine

variable {σ τ : Type} {m : Machine σ τ}

inductive Step (m : Machine σ τ) (s : σ) : σ → Prop
  | turn (t : τ) (ready : t ∈ m.ready s) : Step m s (m.run t s)
  | tick (t : Nat) (later : m.clock s ≤ t) : Step m s (m.setClock t s)

abbrev Steps (m : Machine σ τ) : σ → σ → Prop := Relation.ReflTransGen m.Step

variable [DecidableEq τ]

theorem settleFor_steps (fuel : Nat) (line : List τ) (s : σ) :
    m.Steps s (m.settleFor fuel line s) := by
  induction fuel generalizing line s with
  | zero => exact .refl
  | succ fuel ih =>
    unfold settleFor
    split
    · exact .refl
    · rename_i t rest _
      by_cases ready : t ∈ m.ready s
      · rw [if_pos ready]
        exact .head (.turn t ready) (ih rest _)
      · rw [if_neg ready]
        exact ih rest s

theorem waitFor_steps (done : σ → Bool) (limit fuel : Nat) (s : σ) :
    m.Steps s (m.waitFor done limit fuel s) := by
  induction fuel generalizing s with
  | zero => exact .refl
  | succ fuel ih =>
    have settled : m.Steps s (m.settle s) := settleFor_steps patience [] s
    unfold waitFor
    dsimp only
    split
    · exact settled
    · split
      · rename_i t alarm
        have later : m.clock (m.settle s) ≤ t := by
          have chosen := (List.mem_filter.mp (List.min?_mem alarm)).2
          simp only [Bool.and_eq_true, decide_eq_true_eq] at chosen
          exact Nat.le_of_lt chosen.1
        exact settled.trans (.head (.tick t later) (ih _))
      · have moved := settled.tail (.tick _ (Nat.le_max_right limit (m.clock (m.settle s))))
        exact moved.trans (settleFor_steps patience [] _)

theorem await_steps (done : σ → Bool) (s : σ) : m.Steps s (m.await done s).1 :=
  waitFor_steps done _ _ s

end Fanout.Machine
