import Fanout.Proofs.Registry.Listed

namespace Fanout

namespace Relay

def idle (r : Relay) : Bool := r.closed || r.isEmpty

theorem retireIfEmpty_cases (r : Relay) :
    (r.idle = true ∧ r.retireIfEmpty.2 = true ∧ r.retireIfEmpty.1.closed = true) ∨
      r.idle = false ∧ r.retireIfEmpty = (r, false) := by
  unfold retireIfEmpty idle
  cases closed : r.closed with
  | true => exact .inl ⟨rfl, rfl, closed⟩
  | false =>
    cases empty : r.isEmpty with
    | true => exact .inl ⟨rfl, rfl, rfl⟩
    | false => exact .inr ⟨rfl, rfl⟩

theorem retireIfEmpty_answer (r : Relay) : r.retireIfEmpty.2 = r.idle := by
  rcases r.retireIfEmpty_cases with ⟨idle, told, -⟩ | ⟨busy, same⟩
  · rw [told, idle]
  · rw [same, busy]

theorem retireIfEmpty_of_closed {r : Relay} (closed : r.closed = true) :
    r.retireIfEmpty = (r, true) := if_pos closed

theorem idle_retireIfEmpty (r : Relay) : r.retireIfEmpty.1.idle = r.idle := by
  rcases r.retireIfEmpty_cases with ⟨idle, -, closed⟩ | ⟨-, same⟩
  · rw [idle, Relay.idle, closed]
    rfl
  · rw [same]

theorem retireIfEmpty_twice (r : Relay) :
    r.retireIfEmpty.1.retireIfEmpty.1 = r.retireIfEmpty.1 := by
  rcases r.retireIfEmpty_cases with ⟨-, -, closed⟩ | ⟨-, same⟩
  · rw [retireIfEmpty_of_closed closed]
  · rw [same, same]

end Relay

namespace Registry

variable {g : Registry}

def idle (g : Registry) (i : Nat) : Bool := (g.relays[i]?).any Relay.idle

theorem idle_of_relay {i : Nat} {r : Relay} (here : g.relays[i]? = some r) : g.idle i = r.idle := by
  simp [idle, here]

theorem retireEntry_answer (g : Registry) (i : Nat) : (g.retireEntry i).2 = g.idle i := by
  unfold retireEntry idle
  cases g.relays[i]? with
  | none => rfl
  | some r => exact r.retireIfEmpty_answer

theorem relays_retireEntry (g : Registry) (i : Nat) :
    (g.retireEntry i).1.relays = g.relays.modify i (·.retireIfEmpty.1) := by
  unfold retireEntry
  cases here : g.relays[i]? with
  | none => exact (List.modify_eq_self (List.getElem?_eq_none_iff.mp here)).symm
  | some r =>
    refine List.ext_getElem? fun j => ?_
    by_cases same : i = j
    · subst same
      obtain ⟨small, there⟩ := List.getElem?_eq_some_iff.mp here
      simp [small, there]
    · simp [same]

theorem idle_retireEntry (g : Registry) (i j : Nat) : (g.retireEntry i).1.idle j = g.idle j := by
  unfold idle
  rw [relays_retireEntry, List.getElem?_modify]
  cases g.relays[j]? with
  | none => rfl
  | some r =>
    simp only [Option.map_eq_map, Option.map_some, Option.any_some]
    split
    · exact r.idle_retireIfEmpty
    · rfl

/-- Whether a relay is idle does not depend on what was retired before it. -/
theorem evictFrom_kept (g : Registry) (entries : List (StreamKey × Nat)) :
    (g.evictFrom entries).2 = entries.filter fun entry => !g.idle entry.2 := by
  induction entries generalizing g with
  | nil => rfl
  | cons entry rest ih =>
    have onward := ih (g.retireEntry entry.2).1
    simp only [idle_retireEntry] at onward
    simp only [evictFrom, onward, retireEntry_answer]
    cases idle : g.idle entry.2 <;> simp [idle]

theorem evictFrom_relay (g : Registry) (entries : List (StreamKey × Nat)) (i : Nat) :
    (g.evictFrom entries).1.relays[i]? =
      (g.relays[i]?).map fun r => if i ∈ entries.map (·.2) then r.retireIfEmpty.1 else r := by
  induction entries generalizing g with
  | nil => simp [evictFrom]
  | cons entry rest ih =>
    have onward := ih (g.retireEntry entry.2).1
    rw [relays_retireEntry, List.getElem?_modify] at onward
    simp only [evictFrom]
    rw [onward]
    cases g.relays[i]? with
    | none => rfl
    | some r =>
      simp only [Option.map_eq_map, Option.map_some, List.map_cons, List.mem_cons]
      by_cases same : i = entry.2
      · simp [same, r.retireIfEmpty_twice]
      · have other : ¬ entry.2 = i := fun own => same own.symm
        simp only [same, other, if_false, false_or]

theorem evictEmpty_table (g : Registry) :
    g.evictEmpty.1.table = g.table.filter fun entry => !g.idle entry.2 := g.evictFrom_kept g.table

theorem evictEmpty_relay (g : Registry) (i : Nat) :
    g.evictEmpty.1.relays[i]? =
      (g.relays[i]?).map fun r => if i ∈ g.table.map (·.2) then r.retireIfEmpty.1 else r :=
  g.evictFrom_relay g.table i

theorem evictEmpty_count (g : Registry) :
    g.evictEmpty.2 = g.table.countP fun entry => g.idle entry.2 := by
  have all := g.table.length_eq_countP_add_countP fun entry => g.idle entry.2
  have kept : (g.evictFrom g.table).2.length = g.table.countP fun entry => !g.idle entry.2 := by
    rw [evictFrom_kept, List.countP_eq_length_filter]
  simp only [Bool.not_eq_true, Bool.decide_eq_false] at all
  change g.table.length - (g.evictFrom g.table).2.length = _
  omega

end Registry

end Fanout
