import Fanout.Proofs.Limit.Ledger

namespace Fanout

open Fanout.Units

def Units.Light (caps : List (String × Nat)) (u : Units) : Prop :=
  ∀ c, caps[u.limit]? = some c → u.weight ≤ c.2

/-- Why an acquisition of the units `asked` is refused: it has come too late, though nothing is
wrong with what it asks for first, or these are the first units of which there are never enough. -/
inductive LimitError.Excuses (caps : List (String × Nat)) (asked : List Units) : LimitError → Prop
  | late (light : ∀ u ∈ asked.head?, u.Light caps) : Excuses caps asked .exhausted
  | heavy {before after : List Units} {u : Units} {name : String} {capacity : Nat}
      (split : asked = before ++ u :: after) (light : ∀ v ∈ before, v.Light caps)
      (size : caps[u.limit]? = some (name, capacity)) (above : capacity < u.weight) :
      Excuses caps asked (.weightTooLarge u.weight capacity)

namespace Limit

variable {l : Limit} {weight : Nat}

theorem request_error {e : LimitError} (h : l.request weight = .error e) :
    l.capacity < weight ∧ e = .weightTooLarge weight l.capacity := by
  unfold request at h
  split at h
  · rename_i above
    cases h
    exact ⟨above, rfl⟩
  · split at h <;> cases h

theorem request_ok {taken : Limit × Option Nat} (h : l.request weight = .ok taken) :
    weight ≤ l.capacity := by
  unfold request at h
  split at h
  · cases h
  · omega

end Limit

namespace Acquisition

variable {limits : Limits} {caps : List (String × Nat)} {asked held : List Units} {a : Acquisition}

/-- What an acquisition has, and what it waits for, there is enough of. -/
structure Light (caps : List (String × Nat)) (a : Acquisition) : Prop where
  held : ∀ u ∈ a.held, u.Light caps
  next : a.ticket ≠ none → ∀ u ∈ a.wanted.head?, u.Light caps

def Progress.Answers (caps : List (String × Nat)) (asked : List Units) : Progress → Prop
  | .waiting rest => rest.Light caps ∧ rest.ticket ≠ none
  | .granted _ => True
  | .refused e => e.Excuses caps asked

theorem light_append (light : ∀ u ∈ held, u.Light caps) {u : Units} (next : u.Light caps) :
    ∀ v ∈ held ++ [u], v.Light caps := by
  intro v member
  rcases List.mem_append.mp member with old | new
  · exact light v old
  · exact List.mem_singleton.mp new ▸ next

theorem light_head (light : ∀ u ∈ held, u.Light caps) {u : Units} (next : u.Light caps)
    (rest : List Units) : ∀ v ∈ (held ++ u :: rest).head?, v.Light caps := by
  cases held with
  | nil => simpa using next
  | cons v others => simpa using light v (List.mem_cons_self ..)

theorem Light.head (light : a.Light caps) (waits : a.ticket ≠ none) :
    ∀ u ∈ (a.held ++ a.wanted).head?, u.Light caps := by
  have next := light.next waits
  cases wanted : a.wanted with
  | nil =>
    rw [List.append_nil]
    exact fun u first => light.held u (List.mem_of_mem_head? first)
  | cons u rest =>
    rw [wanted] at next
    exact light_head light.held (next u rfl) rest

theorem advance_answers (sane : Limits.Sane limits)
    (sizes : limits.map (fun l => (l.name, l.capacity)) = caps)
    (light : ∀ u ∈ held, u.Light caps) (deadline : Option Nat) (wanted : List Units) :
    (advance limits held deadline wanted).2.Answers caps (held ++ wanted) := by
  induction wanted generalizing limits held with
  | nil => trivial
  | cons u rest ih =>
    have size : caps[u.limit]? = limits[u.limit]?.map fun l => (l.name, l.capacity) := by
      rw [← sizes, List.getElem?_map]
    unfold advance
    split
    · rename_i missing
      refine .late (light_head light (fun c known => ?_) rest)
      rw [size, missing] at known
      cases known
    · rename_i l here
      rw [here] at size
      cases requested : l.request u.weight with
      | error e =>
        obtain ⟨above, rfl⟩ := Limit.request_error requested
        exact .heavy rfl light size above
      | ok taken =>
        have fits : u.Light caps := by
          intro c known
          rw [size] at known
          cases known
          exact Limit.request_ok requested
        obtain ⟨l', ticket?⟩ := taken
        obtain ⟨rfl, spare, rfl⟩ | ⟨rfl, -, rfl⟩ := Limit.request_cases requested
        · have granted := Limits.Exchange.grant here spare held
          have answers := ih (granted.sane sane) ((granted.sizes sane).trans sizes)
            (light_append light fits)
          rwa [List.append_assoc, List.singleton_append] at answers
        · refine ⟨⟨light, fun _ v next => ?_⟩, nofun⟩
          cases next
          exact fits

theorem collect_answers (sane : Limits.Sane limits) (filed : a.Filed limits)
    (sizes : limits.map (fun l => (l.name, l.capacity)) = caps) (light : a.Light caps) :
    (a.collect limits).2.Answers caps (a.held ++ a.wanted) := by
  unfold collect
  split
  · rename_i ticket u rest waits next
    split
    · have collected := collect_exchange filed waits next ‹_›
      have fits : u.Light caps := light.next (by simp [waits]) u (by simp [next])
      have answers := advance_answers (collected.sane sane) ((collected.sizes sane).trans sizes)
        (light_append light.held fits) a.deadline rest
      rwa [List.append_assoc, List.singleton_append, ← next] at answers
    · exact ⟨light, by simp [waits]⟩
  · exact advance_answers sane sizes light.held a.deadline a.wanted

theorem poll_answers (now : Nat) (sane : Limits.Sane limits) (filed : a.Filed limits)
    (sizes : limits.map (fun l => (l.name, l.capacity)) = caps) (light : a.Light caps) :
    (a.poll limits now).2.Answers caps (a.held ++ a.wanted) := by
  have answers := collect_answers sane filed sizes light
  rcases poll_cases limits a now with same | ⟨rest, waits, same⟩
  · rw [same]
    exact answers
  · rw [same]
    have matched := (collect_spec sane filed).2
    rw [waits] at answers matched
    rw [← matched.1]
    exact .late (answers.1.head answers.2)

end Acquisition

end Fanout
