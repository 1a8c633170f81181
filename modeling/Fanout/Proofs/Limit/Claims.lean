import Fanout.Proofs.Limit.Ledger

namespace Fanout

namespace Limit

variable {l : Limit} {ticket other : Nat}

def tickets (l : Limit) : List Nat := l.claims.map (·.ticket)

@[simp] theorem tickets_give (units : Nat) : (l.give units).tickets = l.tickets := by
  have outline := congrArg (List.map Prod.fst) (distribute_outline units l.claims)
  rw [List.map_map, List.map_map] at outline
  exact outline

@[simp] theorem tickets_release (weight : Nat) : (l.release weight).tickets = l.tickets :=
  tickets_give weight

theorem mem_tickets_erase : other ∈ (l.eraseClaim ticket).tickets ↔
    other ∈ l.tickets ∧ other ≠ ticket := by
  simp only [tickets, eraseClaim, List.mem_map, List.mem_filter, bne_iff_ne]
  constructor
  · rintro ⟨c, ⟨member, differs⟩, rfl⟩
    exact ⟨⟨c, member, rfl⟩, differs⟩
  · rintro ⟨⟨c, member, rfl⟩, differs⟩
    exact ⟨c, ⟨member, differs⟩, rfl⟩

theorem mem_tickets_withdraw (member : other ∈ (l.withdraw ticket).tickets) :
    other ∈ l.tickets ∧ other ≠ ticket := by
  unfold withdraw at member
  split at member
  · rw [tickets_give] at member
    exact mem_tickets_erase.mp member
  · rename_i missing
    refine ⟨member, ?_⟩
    rintro rfl
    obtain ⟨c, filed, rfl⟩ := List.mem_map.mp member
    simp only [claim?, List.find?_eq_none] at missing
    exact missing c filed (beq_self_eq_true _)

end Limit

namespace Limits

variable {limits : Limits} {n ticket : Nat}

def Claimed (limits : Limits) (n ticket : Nat) : Prop :=
  ∃ l, limits[n]? = some l ∧ ticket ∈ l.tickets

theorem not_claimed_fresh (caps : List (String × Nat)) :
    ¬ Claimed (caps.map fun c => .new c.1 c.2) n ticket := by
  rintro ⟨l, here, member⟩
  obtain ⟨c, -, rfl⟩ := List.mem_map.mp (List.mem_of_getElem? here)
  simp [Limit.tickets, Limit.new] at member

theorem Claimed.of_update {i : Nat} {f : Limit → Limit} (h : Claimed (update limits i f) n ticket) :
    n ≠ i ∧ Claimed limits n ticket ∨ n = i ∧ ∃ l, limits[n]? = some l ∧ ticket ∈ (f l).tickets := by
  obtain ⟨l', new, member⟩ := h
  rcases getElem?_modify_cases new with ⟨l, same, old, rfl⟩ | ⟨differs, old⟩
  · exact .inr ⟨same.symm, l, old, member⟩
  · exact .inl ⟨Ne.symm differs, l', old, member⟩

theorem Claimed.of_set {i : Nat} {l l' : Limit} (here : limits[i]? = some l)
    (h : Claimed (limits.set i l') n ticket) :
    n ≠ i ∧ Claimed limits n ticket ∨ n = i ∧ ticket ∈ l'.tickets := by
  have same : limits.set i l' = update limits i fun _ => l' := by
    rw [update, List.modify_eq_set_getElem?, here]
    rfl
  rw [same] at h
  rcases h.of_update with other | ⟨own, -, -, member⟩
  · exact .inl other
  · exact .inr ⟨own, member⟩

theorem Claimed.of_releaseAll {held : List Units} (h : Claimed (releaseAll limits held) n ticket) :
    Claimed limits n ticket := by
  induction held generalizing limits with
  | nil => exact h
  | cons u rest ih =>
    rcases (ih h).of_update with ⟨-, old⟩ | ⟨-, l, here, member⟩
    · exact old
    · exact ⟨l, here, by rwa [Limit.tickets_release] at member⟩

end Limits

namespace Acquisition

open Limits

variable {limits limits' : Limits} {a : Acquisition} {n ticket : Nat}

def filing? (a : Acquisition) : Option (Nat × Nat) :=
  match a.ticket, a.wanted with
  | some ticket, u :: _ => some (u.limit, ticket)
  | _, _ => none

def Progress.filing? : Progress → Option (Nat × Nat)
  | .waiting rest => rest.filing?
  | _ => none

theorem filing?_eq_none (notFiled : ∀ (ticket : Nat) u rest, a.ticket = some ticket →
    a.wanted = u :: rest → False) : a.filing? = none := by
  unfold filing?
  split
  · rename_i mine u rest waits next
    exact absurd next (notFiled mine u rest waits)
  · rfl

theorem claimed_of_abandon (h : Claimed (a.abandon limits) n ticket) :
    Claimed limits n ticket ∧ a.filing? ≠ some (n, ticket) := by
  have h := Claimed.of_releaseAll h
  split at h
  · rename_i mine u rest waits next
    have filing : a.filing? = some (u.limit, mine) := by simp only [filing?, waits, next]
    rw [filing]
    rcases h.of_update with ⟨differs, old⟩ | ⟨rfl, l, here, member⟩
    · exact ⟨old, by simp [Ne.symm differs]⟩
    · obtain ⟨old, differs⟩ := Limit.mem_tickets_withdraw member
      exact ⟨⟨l, here, old⟩, by simp [Ne.symm differs]⟩
  · rename_i notFiled
    rw [filing?_eq_none notFiled]
    exact ⟨h, nofun⟩

theorem claimed_of_advance {held : List Units} {deadline : Option Nat} {wanted : List Units}
    (h : Claimed (advance limits held deadline wanted).1 n ticket) :
    Claimed limits n ticket ∨
      (advance limits held deadline wanted).2.filing? = some (n, ticket) := by
  induction wanted generalizing limits held with
  | nil => exact .inl h
  | cons u rest ih =>
    unfold advance at h ⊢
    split at h
    · exact .inl h.of_releaseAll
    · rename_i l here
      split at h
      · exact .inl h.of_releaseAll
      · rename_i l' requested
        obtain ⟨-, -, rfl⟩ | ⟨waits, -⟩ := Limit.request_cases requested
        · refine (ih h).imp_left fun granted => ?_
          rcases granted.of_set here with ⟨-, old⟩ | ⟨rfl, member⟩
          · exact old
          · exact ⟨l, here, member⟩
        · cases waits
      · rename_i l' mine requested
        obtain ⟨granted, -⟩ | ⟨taken, -, rfl⟩ := Limit.request_cases requested
        · cases granted
        · cases taken
          rcases h.of_set here with ⟨-, old⟩ | ⟨rfl, member⟩
          · exact .inl old
          · simp only [Limit.tickets, List.map_append, List.mem_append, List.map_cons, List.map_nil,
              List.mem_singleton] at member
            rcases member with old | rfl
            · exact .inl ⟨l, here, old⟩
            · exact .inr rfl

theorem claimed_of_collect (h : Claimed (a.collect limits).1 n ticket) :
    Claimed limits n ticket ∧ a.filing? ≠ some (n, ticket) ∨
      (a.collect limits).2.filing? = some (n, ticket) := by
  unfold collect at h ⊢
  split at h
  · rename_i mine u rest waits next
    have filing : a.filing? = some (u.limit, mine) := by simp only [filing?, waits, next]
    split at h
    · rename_i complete
      simp only [complete, if_true]
      refine (claimed_of_advance h).imp_left fun collected => ?_
      rw [filing]
      rcases collected.of_update with ⟨differs, old⟩ | ⟨rfl, l, here, member⟩
      · exact ⟨old, by simp [Ne.symm differs]⟩
      · obtain ⟨old, differs⟩ := Limit.mem_tickets_erase.mp member
        exact ⟨⟨l, here, old⟩, by simp [Ne.symm differs]⟩
    · rename_i incomplete
      simp only [incomplete]
      by_cases own : a.filing? = some (n, ticket)
      · exact .inr own
      · exact .inl ⟨h, own⟩
  · rename_i notFiled
    rw [filing?_eq_none notFiled]
    exact (claimed_of_advance h).imp_left fun old => ⟨old, nofun⟩

/-- After a poll the only new claim is that of the acquisition, and its old one is gone unless it is
the same. -/
theorem claimed_of_poll {now : Nat} (h : Claimed (a.poll limits now).1 n ticket) :
    Claimed limits n ticket ∧ a.filing? ≠ some (n, ticket) ∨
      (a.poll limits now).2.filing? = some (n, ticket) := by
  rcases poll_cases limits a now with same | ⟨rest, waits, same⟩
  · rw [same] at h ⊢
    exact claimed_of_collect h
  · rw [same] at h
    obtain ⟨collected, withdrawn⟩ := claimed_of_abandon h
    refine (claimed_of_collect collected).imp_right fun own => ?_
    rw [waits] at own
    exact absurd own withdrawn

end Acquisition

end Fanout
