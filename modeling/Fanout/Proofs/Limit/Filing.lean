import Fanout.Proofs.Limit.Claims

namespace Fanout

namespace Limit

variable {l : Limit} {ticket other : Nat} {c : Claim}

theorem tickets_eraseClaim (l : Limit) (ticket : Nat) :
    (l.eraseClaim ticket).tickets = l.tickets.filter (· != ticket) := by
  rw [tickets, tickets, List.filter_map]
  rfl

theorem Sane.count_erase (h : l.Sane) (member : ticket ∈ l.tickets) (other : Nat) :
    (l.eraseClaim ticket).tickets.count other + (if ticket = other then 1 else 0) =
      l.tickets.count other := by
  have nodup : l.tickets.Nodup := h.nodup
  rw [tickets_eraseClaim, ← nodup.erase_eq_filter, List.count_erase]
  by_cases same : ticket = other
  · subst same
    have present : 0 < l.tickets.count ticket := List.count_pos_iff.mpr member
    simp only [beq_self_eq_true, if_true]
    omega
  · simp [same]

theorem claim?_isSome_of_mem (member : ticket ∈ l.tickets) : ∃ c, l.claim? ticket = some c := by
  obtain ⟨c, filed, rfl⟩ := List.mem_map.mp member
  cases found : l.claim? c.ticket with
  | some d => exact ⟨d, rfl⟩
  | none =>
    have missing := List.find?_eq_none.mp found c filed
    exact absurd (beq_self_eq_true _) missing

theorem mem_tickets_of_claim? (found : l.claim? ticket = some c) : ticket ∈ l.tickets := by
  have mine : c.ticket = ticket := by simpa using List.find?_some found
  exact mine ▸ List.mem_map_of_mem (List.mem_of_find?_eq_some found)

end Limit

def filings (claim? : Option (Nat × Nat)) (n ticket : Nat) : Nat :=
  if claim? = some (n, ticket) then 1 else 0

@[simp] theorem filings_none (n ticket : Nat) : filings none n ticket = 0 := rfl

theorem filings_some (i mine n ticket : Nat) :
    filings (some (i, mine)) n ticket = if i = n ∧ mine = ticket then 1 else 0 := by
  simp [filings]

namespace Limits

variable {limits limits' limits'' : Limits} {before between after : Option (Nat × Nat)}
  {n ticket : Nat}

def ticketsAt (limits : Limits) (n : Nat) : List Nat := limits[n]?.elim [] Limit.tickets

theorem ticketsAt_eq {l : Limit} (here : limits[n]? = some l) : limits.ticketsAt n = l.tickets := by
  rw [ticketsAt, here]
  rfl

theorem mem_ticketsAt : ticket ∈ limits.ticketsAt n ↔ Claimed limits n ticket := by
  unfold ticketsAt Claimed
  cases limits[n]? <;> simp

theorem ticketsAt_update_ne {i : Nat} (differs : i ≠ n) (f : Limit → Limit) :
    (update limits i f).ticketsAt n = limits.ticketsAt n := by
  simp [ticketsAt, update, differs]

theorem ticketsAt_update {f : Limit → Limit} {l : Limit} (here : limits[n]? = some l) :
    (update limits n f).ticketsAt n = (f l).tickets := by
  simp [ticketsAt, update, here]

/-- The claim `before` has gone and `after` has come, and all others have stayed. -/
def Refiled (limits limits' : Limits) (before after : Option (Nat × Nat)) : Prop :=
  ∀ n ticket, (limits'.ticketsAt n).count ticket + filings before n ticket =
    (limits.ticketsAt n).count ticket + filings after n ticket

namespace Refiled

theorem refl (limits : Limits) (before : Option (Nat × Nat)) :
    Refiled limits limits before before :=
  fun _ _ => rfl

theorem trans (first : Refiled limits limits' before between)
    (second : Refiled limits' limits'' between after) : Refiled limits limits'' before after := by
  intro n ticket
  have one := first n ticket
  have two := second n ticket
  omega

theorem update {f : Limit → Limit} {l : Limit} (here : limits[n]? = some l)
    (own : ∀ ticket, (f l).tickets.count ticket + filings before n ticket =
      l.tickets.count ticket + filings after n ticket)
    (others : ∀ m ticket, n ≠ m → filings before m ticket = filings after m ticket) :
    Refiled limits (Limits.update limits n f) before after := by
  intro m ticket
  by_cases same : n = m
  · subst same
    rw [ticketsAt_update here, ticketsAt_eq here]
    exact own ticket
  · rw [ticketsAt_update_ne same, others m ticket same]

theorem set {l l' : Limit} (here : limits[n]? = some l)
    (own : ∀ ticket, l'.tickets.count ticket + filings before n ticket =
      l.tickets.count ticket + filings after n ticket)
    (others : ∀ m ticket, n ≠ m → filings before m ticket = filings after m ticket) :
    Refiled limits (limits.set n l') before after := by
  have same : limits.set n l' = Limits.update limits n fun _ => l' := by
    rw [Limits.update, List.modify_eq_set_getElem?, here]
    rfl
  rw [same]
  exact update here own others

theorem of_tickets (same : ∀ n, limits'.ticketsAt n = limits.ticketsAt n)
    (claim? : Option (Nat × Nat)) : Refiled limits limits' claim? claim? := by
  intro n ticket
  rw [same n]

theorem claimed (h : Refiled limits limits' before (some (n, ticket)))
    (filed : ∀ m mine, before = some (m, mine) → Claimed limits m mine) :
    Claimed limits' n ticket := by
  have count := h n ticket
  have present : 0 < (limits'.ticketsAt n).count ticket := by
    by_cases same : before = some (n, ticket)
    · have old : 0 < (limits.ticketsAt n).count ticket :=
        List.count_pos_iff.mpr (mem_ticketsAt.mpr (filed n ticket same))
      simp only [filings, same, if_true] at count
      omega
    · simp only [filings, same, if_true, if_false] at count
      omega
  exact mem_ticketsAt.mp (List.count_pos_iff.mp present)

end Refiled

theorem ticketsAt_releaseAll (limits : Limits) (held : List Units) (n : Nat) :
    (releaseAll limits held).ticketsAt n = limits.ticketsAt n := by
  induction held generalizing limits with
  | nil => rfl
  | cons u rest ih =>
    refine (ih (update limits u.limit (·.release u.weight))).trans ?_
    by_cases same : u.limit = n
    · subst same
      unfold ticketsAt update
      rw [List.getElem?_modify_eq]
      cases limits[u.limit]? with
      | none => rfl
      | some l => exact Limit.tickets_release u.weight
    · exact ticketsAt_update_ne same _

end Limits

namespace Acquisition

open Limits

variable {limits : Limits} {a : Acquisition}

theorem filing?_eq {mine : Nat} {u : Units} {rest : List Units} (waits : a.ticket = some mine)
    (next : a.wanted = u :: rest) : a.filing? = some (u.limit, mine) := by
  simp only [filing?, waits, next]

def Registered (limits : Limits) (a : Acquisition) : Prop :=
  ∀ n ticket, a.filing? = some (n, ticket) → Claimed limits n ticket

theorem abandon_refiled (sane : Limits.Sane limits) (registered : a.Registered limits) :
    Refiled limits (a.abandon limits) a.filing? none := by
  refine .trans ?_ (.of_tickets (ticketsAt_releaseAll _ _) none)
  split
  · rename_i mine u rest waits next
    have filing := filing?_eq waits next
    obtain ⟨l, here, member⟩ := registered _ _ filing
    obtain ⟨c, found⟩ := Limit.claim?_isSome_of_mem member
    rw [filing]
    apply Refiled.update here
    · intro ticket
      have erased := (sane l (List.mem_of_getElem? here)).count_erase member ticket
      simpa [Limit.withdraw, found, filings_some] using erased
    · intro n ticket differs
      simp [filings_some, differs]
  · rename_i notFiled
    rw [filing?_eq_none notFiled]
    exact .refl limits none

theorem advance_refiled (limits : Limits) (held : List Units) (deadline : Option Nat)
    (wanted : List Units) : Refiled limits (advance limits held deadline wanted).1 none
      (advance limits held deadline wanted).2.filing? := by
  induction wanted generalizing limits held with
  | nil => exact .refl limits none
  | cons u rest ih =>
    unfold advance
    split
    · exact .of_tickets (ticketsAt_releaseAll limits held) none
    · rename_i l here
      split
      · exact .of_tickets (ticketsAt_releaseAll limits held) none
      · rename_i l' requested
        obtain ⟨-, -, rfl⟩ | ⟨waits, -⟩ := Limit.request_cases requested
        · have granted : Refiled limits (limits.set u.limit (l.grant u.weight)) none none :=
            .set here (fun _ => rfl) fun _ _ _ => rfl
          exact granted.trans (ih _ _)
        · cases waits
      · rename_i l' mine requested
        obtain ⟨granted, -⟩ | ⟨taken, -, rfl⟩ := Limit.request_cases requested
        · cases granted
        · cases taken
          apply Refiled.set here
          · intro ticket
            simp [Limit.tickets, Progress.filing?, filing?, filings_some, List.count_singleton]
          · intro n ticket differs
            simp [Progress.filing?, filing?, filings_some, differs]

theorem collect_refiled (sane : Limits.Sane limits) (a : Acquisition) :
    Refiled limits (a.collect limits).1 a.filing? (a.collect limits).2.filing? := by
  unfold collect
  split
  · rename_i mine u rest waits next
    have filing := filing?_eq waits next
    split
    · rename_i complete
      simp only [Acquisition.complete, waits, next, Option.any_eq_true, Limit.isComplete] at complete
      obtain ⟨l, here, c, found, -⟩ := complete
      have member := Limit.mem_tickets_of_claim? found
      refine .trans ?_ (advance_refiled _ _ _ _)
      rw [filing]
      apply Refiled.update here
      · intro ticket
        have erased := (sane l (List.mem_of_getElem? here)).count_erase member ticket
        simpa [Limit.collect, Limit.tickets, filings_some] using erased
      · intro n ticket differs
        simp [filings_some, differs]
    · exact .refl limits _
  · rename_i notFiled
    rw [filing?_eq_none notFiled]
    exact advance_refiled _ _ _ _

/-- A poll puts the claim with which the acquisition waits on in the place of its old one. -/
theorem poll_refiled (now : Nat) (sane : Limits.Sane limits) (filed : a.Filed limits)
    (registered : a.Registered limits) :
    Refiled limits (a.poll limits now).1 a.filing? (a.poll limits now).2.filing? := by
  have collected := collect_refiled sane a
  rcases poll_cases limits a now with same | ⟨rest, waits, same⟩
  · rw [same]
    exact collected
  · rw [same]
    rw [waits] at collected
    have known : rest.Registered (a.collect limits).1 := by
      intro n ticket files
      rw [show (Progress.waiting rest).filing? = some (n, ticket) from files] at collected
      exact collected.claimed registered
    exact collected.trans (abandon_refiled ((collect_spec sane filed).1.sane sane) known)

end Acquisition

end Fanout
