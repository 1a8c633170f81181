import Fanout.Limit.Acquisition
import Fanout.Proofs.Lookup
import Mathlib.Algebra.BigOperators.Group.List.Basic

namespace Fanout

namespace Units

/-- The sum of `f` over those units that are of the limit at `n`. -/
def tally (f : Units → Nat) (n : Nat) (held : List Units) : Nat :=
  (held.map fun u => if u.limit = n then f u else 0).sum

variable {f : Units → Nat} {n : Nat} {u : Units} {held more : List Units}

@[simp] theorem tally_nil : tally f n [] = 0 := rfl

@[simp] theorem tally_cons :
    tally f n (u :: held) = (if u.limit = n then f u else 0) + tally f n held := by
  simp [tally]

@[simp] theorem tally_append : tally f n (held ++ more) = tally f n held + tally f n more := by
  simp [tally]

theorem tally_flatMap {α : Type} (f : Units → Nat) (n : Nat) (h : α → List Units) (xs : List α) :
    tally f n (xs.flatMap h) = (xs.map fun x => tally f n (h x)).sum := by
  induction xs with
  | nil => rfl
  | cons x rest ih => simp [ih]

theorem tally_singles {f : Units → Nat} (one : ∀ i, f ⟨i, 1⟩ = 1) (n : Nat) (limits : List Nat) :
    tally f n (limits.map fun i => ⟨i, 1⟩) = limits.count n := by
  induction limits with
  | nil => rfl
  | cons limit rest ih =>
    rw [List.map_cons, tally_cons, ih, List.count_cons, Nat.add_comm]
    simp [one]

def weightAt : Nat → List Units → Nat := tally (·.weight)

def countAt : Nat → List Units → Nat := tally fun _ => 1

end Units

def Claim.reserved (c : Claim) : Nat := c.weight - c.missing

namespace Limit

open Fanout.Units

variable {l l' l'' : Limit} {n weight ticket : Nat} {before between after : List Units}

/-- The units that nobody holds. -/
def spare (l : Limit) : Nat := l.available + (l.claims.map Claim.reserved).sum

structure Sane (l : Limit) : Prop where
  numbered : ∀ c ∈ l.claims, c.ticket < l.nextTicket
  nodup : (l.claims.map (·.ticket)).Nodup
  missing : ∀ c ∈ l.claims, c.missing ≤ c.weight

structure Onward (l l' : Limit) : Prop where
  name : l'.name = l.name
  capacity : l'.capacity = l.capacity
  tickets : l.nextTicket ≤ l'.nextTicket
  claims : ∀ c' ∈ l'.claims, c'.ticket < l.nextTicket →
    ∃ c ∈ l.claims, c.ticket = c'.ticket ∧ c.weight = c'.weight

theorem Onward.refl (l : Limit) : l.Onward l :=
  ⟨rfl, rfl, Nat.le_refl _, fun c member _ => ⟨c, member, rfl, rfl⟩⟩

theorem Onward.trans (first : l.Onward l') (second : l'.Onward l'') : l.Onward l'' where
  name := second.name.trans first.name
  capacity := second.capacity.trans first.capacity
  tickets := Nat.le_trans first.tickets second.tickets
  claims c'' member small := by
    obtain ⟨c', member', ticket', weight'⟩ :=
      second.claims c'' member (Nat.lt_of_lt_of_le small first.tickets)
    obtain ⟨c, member, ticket, weight⟩ := first.claims c' member' (ticket' ▸ small)
    exact ⟨c, member, ticket.trans ticket', weight.trans weight'⟩

theorem Onward.figures (l : Limit) (available acquired released : Nat) : l.Onward
    { l with available := available, acquired := acquired, released := released } :=
  ⟨rfl, rfl, Nat.le_refl _, fun c member _ => ⟨c, member, rfl, rfl⟩⟩

theorem Sane.figures (h : l.Sane) (available acquired released : Nat) : Sane
    { l with available := available, acquired := acquired, released := released } :=
  ⟨h.numbered, h.nodup, h.missing⟩

/-- The limit at `n` has gone from `l` to `l'` while the units held elsewhere went from `before` to
`after`. -/
structure Exchange (n : Nat) (l l' : Limit) (before after : List Units) : Prop where
  sane : l'.Sane
  onward : l.Onward l'
  spare : l'.spare + weightAt n after = l.spare + weightAt n before
  counted : l'.acquired + l.released + countAt n before =
    l.acquired + l'.released + countAt n after

namespace Exchange

theorem refl (sane : l.Sane) : Exchange n l l before before :=
  ⟨sane, .refl l, rfl, rfl⟩

theorem trans (first : Exchange n l l' before between) (second : Exchange n l' l'' between after) :
    Exchange n l l'' before after where
  sane := second.sane
  onward := first.onward.trans second.onward
  spare := second.spare.trans first.spare
  counted := by
    have one := first.counted
    have two := second.counted
    omega

end Exchange

theorem distribute_outline (units : Nat) (claims : List Claim) :
    (distribute units claims).1.map (fun c => (c.ticket, c.weight)) =
      claims.map fun c => (c.ticket, c.weight) := by
  induction claims generalizing units with
  | nil => rfl
  | cons claim rest ih => simp [distribute, ih]

theorem distribute_missing {claims : List Claim} (sound : ∀ c ∈ claims, c.missing ≤ c.weight)
    (units : Nat) : ∀ c ∈ (distribute units claims).1, c.missing ≤ c.weight := by
  induction claims generalizing units with
  | nil => exact fun c member => absurd member List.not_mem_nil
  | cons claim rest ih =>
    obtain ⟨first, others⟩ := List.forall_mem_cons.mp sound
    refine List.forall_mem_cons.mpr ⟨?_, ih others _⟩
    exact Nat.le_trans (Nat.sub_le _ _) first

theorem distribute_reserved {claims : List Claim} (sound : ∀ c ∈ claims, c.missing ≤ c.weight)
    (units : Nat) : ((distribute units claims).1.map Claim.reserved).sum +
      (distribute units claims).2 = (claims.map Claim.reserved).sum + units := by
  induction claims generalizing units with
  | nil => simp [distribute]
  | cons claim rest ih =>
    obtain ⟨first, others⟩ := List.forall_mem_cons.mp sound
    have left := ih others (units - min units claim.missing)
    simp only [distribute, List.map_cons, List.sum_cons, Claim.reserved] at left ⊢
    omega

theorem claim_before_give {units : Nat} {c' : Claim} (member : c' ∈ (l.give units).claims) :
    ∃ c ∈ l.claims, c.ticket = c'.ticket ∧ c.weight = c'.weight := by
  have outline := List.mem_map_of_mem (f := fun c : Claim => (c.ticket, c.weight)) member
  simp only [give, distribute_outline] at outline
  obtain ⟨c, member', same⟩ := List.mem_map.mp outline
  exact ⟨c, member', congrArg Prod.fst same, congrArg Prod.snd same⟩

theorem Sane.give (h : l.Sane) (units : Nat) : (l.give units).Sane where
  numbered c' member := by
    obtain ⟨c, member', ticket, -⟩ := claim_before_give member
    exact ticket ▸ h.numbered c member'
  nodup := by
    have tickets := congrArg (List.map Prod.fst) (distribute_outline units l.claims)
    rw [List.map_map, List.map_map] at tickets
    exact (show (l.give units).claims.map (·.ticket) = _ from tickets) ▸ h.nodup
  missing := distribute_missing h.missing units

theorem Onward.give (l : Limit) (units : Nat) : l.Onward (l.give units) :=
  ⟨rfl, rfl, Nat.le_refl _, fun _ member _ => claim_before_give member⟩

theorem Sane.spare_give (h : l.Sane) (units : Nat) : (l.give units).spare = l.spare + units := by
  have reserved := distribute_reserved h.missing units
  simp only [spare, Limit.give]
  omega

theorem Sane.erase (h : l.Sane) (ticket : Nat) : (l.eraseClaim ticket).Sane where
  numbered c member := h.numbered c (List.mem_filter.mp member).1
  nodup := h.nodup.sublist (List.filter_sublist.map _)
  missing c member := h.missing c (List.mem_filter.mp member).1

theorem Onward.erase (l : Limit) (ticket : Nat) : l.Onward (l.eraseClaim ticket) :=
  ⟨rfl, rfl, Nat.le_refl _, fun c member _ => ⟨c, (List.mem_filter.mp member).1, rfl, rfl⟩⟩

theorem Sane.claim?_eq_some_iff (h : l.Sane) {c : Claim} :
    l.claim? ticket = some c ↔ c ∈ l.claims ∧ c.ticket = ticket :=
  find?_key_eq_some_iff h.nodup

theorem Sane.spare_erase (h : l.Sane) {c : Claim} (found : l.claim? ticket = some c) :
    (l.eraseClaim ticket).spare + c.reserved = l.spare := by
  obtain ⟨member, rfl⟩ := h.claim?_eq_some_iff.mp found
  have erased : l.claims.filter (·.ticket != c.ticket) = l.claims.erase c := by
    rw [h.nodup.of_map.erase_eq_filter]
    refine List.filter_congr fun d other => ?_
    by_cases same : d = c
    · rw [same, bne_self_eq_false, bne_self_eq_false]
    · have differs : d.ticket ≠ c.ticket := fun eq =>
        same (List.inj_on_of_nodup_map h.nodup other member eq)
      rw [bne_iff_ne.mpr differs, bne_iff_ne.mpr same]
  have sum := List.sum_map_erase Claim.reserved member
  simp only [spare, eraseClaim, erased]
  omega

namespace Exchange

theorem grant (sane : l.Sane) (fits : weight ≤ l.available) :
    Exchange n l (l.grant weight) before (before ++ [⟨n, weight⟩]) where
  sane := sane.figures _ _ _
  onward := .figures l _ _ _
  spare := by
    simp [Limit.spare, Limit.grant, weightAt]
    omega
  counted := by
    simp [Limit.grant, countAt]
    omega

theorem claim (sane : l.Sane) (scarce : l.available < weight) :
    Exchange n l
      { l with
        available := 0
        claims := l.claims ++ [⟨l.nextTicket, weight, weight - l.available⟩]
        nextTicket := l.nextTicket + 1 } before before where
  sane := by
    refine ⟨fun c member => ?_, ?_, fun c member => ?_⟩
    · rcases List.mem_append.mp member with old | new
      · exact Nat.lt_succ_of_lt (sane.numbered c old)
      · rw [List.mem_singleton.mp new]
        exact Nat.lt_succ_self _
    · simp only [List.map_append, List.map_cons, List.map_nil]
      refine List.nodup_append.mpr ⟨sane.nodup, by simp, ?_⟩
      rintro _ member _ new rfl
      obtain ⟨c, old, same⟩ := List.mem_map.mp member
      have small := sane.numbered c old
      rw [same, List.mem_singleton.mp new] at small
      exact absurd small (Nat.lt_irrefl _)
    · rcases List.mem_append.mp member with old | new
      · exact sane.missing c old
      · rw [List.mem_singleton.mp new]
        exact Nat.sub_le _ _
  onward := by
    refine ⟨rfl, rfl, Nat.le_succ _, fun c member small => ?_⟩
    rcases List.mem_append.mp member with old | new
    · exact ⟨c, old, rfl, rfl⟩
    · rw [List.mem_singleton.mp new] at small
      exact absurd small (Nat.lt_irrefl _)
  spare := by
    simp [Limit.spare, Claim.reserved]
    omega
  counted := rfl

theorem collect (sane : l.Sane) {c : Claim} (found : l.claim? ticket = some c)
    (complete : c.missing = 0) :
    Exchange n l (l.collect ticket) before (before ++ [⟨n, c.weight⟩]) where
  sane := (sane.erase ticket).figures _ _ _
  onward := (Onward.erase l ticket).trans (.figures _ _ _ _)
  spare := by
    have erased := sane.spare_erase found
    simp only [Limit.spare, Claim.reserved, complete] at erased
    simp [Limit.spare, Limit.collect, weightAt]
    omega
  counted := by
    simp [Limit.collect, Limit.eraseClaim, countAt]
    omega

theorem withdraw (sane : l.Sane) : Exchange n l (l.withdraw ticket) before before := by
  unfold Limit.withdraw
  split
  · rename_i c found
    have erased := sane.spare_erase found
    refine ⟨(sane.erase ticket).give _, (Onward.erase l ticket).trans (.give _ _), ?_, rfl⟩
    rw [(sane.erase ticket).spare_give]
    exact congrArg (· + weightAt n before) erased
  · exact .refl sane

theorem release (sane : l.Sane) : Exchange n l (l.release weight) (⟨n, weight⟩ :: before) before where
  sane := (sane.figures _ _ _).give weight
  onward := (Onward.figures l _ _ _).trans (.give _ _)
  spare := by
    have given := (sane.figures l.available l.acquired (l.released + 1)).spare_give weight
    simp only [Limit.release, given]
    simp [Limit.spare, weightAt]
    omega
  counted := by
    simp [Limit.release, Limit.give, countAt]
    omega

end Exchange

theorem request_cases {ticket? : Option Nat} (h : l.request weight = .ok (l', ticket?)) :
    ticket? = none ∧ weight ≤ l.available ∧ l' = l.grant weight ∨
      ticket? = some l.nextTicket ∧ l.available < weight ∧
        l' = { l with
          available := 0
          claims := l.claims ++ [⟨l.nextTicket, weight, weight - l.available⟩]
          nextTicket := l.nextTicket + 1 } := by
  unfold request at h
  split at h
  · cases h
  · split at h
    · rename_i fits
      cases h
      exact .inl ⟨rfl, fits, rfl⟩
    · rename_i scarce
      cases h
      exact .inr ⟨rfl, Nat.lt_of_not_le scarce, rfl⟩

end Limit

end Fanout
