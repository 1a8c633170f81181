import Fanout.Proofs.Limit.Balance

namespace Fanout

open Fanout.Units

namespace Limits

variable {limits limits' limits'' : Limits} {before between after held : List Units}

def Sane (limits : Limits) : Prop := ∀ l ∈ limits, l.Sane

structure Exchange (limits limits' : Limits) (before after : List Units) : Prop where
  length : limits'.length = limits.length
  each : ∀ (n : Nat) l l', limits[n]? = some l → limits'[n]? = some l' → l.Sane →
    l.Exchange n l' before after

namespace Exchange

theorem back (h : Exchange limits limits' before after) {n : Nat} {l' : Limit}
    (new : limits'[n]? = some l') : ∃ l, limits[n]? = some l := by
  have small := (List.getElem?_eq_some_iff.mp new).1
  rw [h.length] at small
  exact ⟨_, List.getElem?_eq_getElem small⟩

theorem sane (h : Exchange limits limits' before after) (sane : Sane limits) : Sane limits' := by
  intro l' member
  obtain ⟨n, new⟩ := List.mem_iff_getElem?.mp member
  obtain ⟨l, old⟩ := h.back new
  exact (h.each n l l' old new (sane l (List.mem_of_getElem? old))).sane

theorem sizes (h : Exchange limits limits' before after) (sane : Sane limits) :
    limits'.map (fun l => (l.name, l.capacity)) = limits.map fun l => (l.name, l.capacity) := by
  refine List.ext_getElem? fun n => ?_
  rw [List.getElem?_map, List.getElem?_map]
  cases new : limits'[n]? with
  | none =>
    have large := List.getElem?_eq_none_iff.mp new
    rw [h.length] at large
    rw [List.getElem?_eq_none_iff.mpr large]
  | some l' =>
    obtain ⟨l, old⟩ := h.back new
    have onward := (h.each n l l' old new (sane l (List.mem_of_getElem? old))).onward
    rw [old, Option.map_some, Option.map_some, onward.name, onward.capacity]

theorem refl (limits : Limits) (before : List Units) : Exchange limits limits before before where
  length := rfl
  each n l l' old new sane := by
    rw [old, Option.some.injEq] at new
    exact new ▸ .refl sane

theorem trans (first : Exchange limits limits' before between)
    (second : Exchange limits' limits'' between after) : Exchange limits limits'' before after where
  length := second.length.trans first.length
  each n l l'' old new sane := by
    obtain ⟨l', there⟩ := second.back new
    have one := first.each n l l' old there sane
    exact one.trans (second.each n l' l'' there new one.sane)

theorem update {i : Nat} {f : Limit → Limit}
    (own : ∀ l, limits[i]? = some l → l.Sane → l.Exchange i (f l) before after)
    (others : ∀ (g : Units → Nat) n, i ≠ n → tally g n after = tally g n before) :
    Exchange limits (Limits.update limits i f) before after where
  length := List.length_modify ..
  each n l l' old new sane := by
    rcases getElem?_modify_cases new with ⟨x, same, there, rfl⟩ | ⟨differs, there⟩
    · subst same
      rw [old, Option.some.injEq] at there
      exact there ▸ own l old sane
    · rw [old, Option.some.injEq] at there
      subst there
      exact ⟨sane, .refl l, congrArg (l.spare + ·) (others _ n differs),
        congrArg (l.acquired + l.released + ·) (others _ n differs).symm⟩

theorem set {i : Nat} {l l' : Limit} (here : limits[i]? = some l)
    (own : l.Sane → l.Exchange i l' before after)
    (others : ∀ (g : Units → Nat) n, i ≠ n → tally g n after = tally g n before) :
    Exchange limits (limits.set i l') before after := by
  have same : limits.set i l' = Limits.update limits i fun _ => l' := by
    rw [Limits.update, List.modify_eq_set_getElem?, here]
    rfl
  rw [same]
  refine update (fun k there sane => ?_) others
  rw [here, Option.some.injEq] at there
  exact there ▸ own (there ▸ sane)

theorem grant {l : Limit} {u : Units} (here : limits[u.limit]? = some l)
    (fits : u.weight ≤ l.available) (held : List Units) : Exchange limits
      (limits.set u.limit (l.grant u.weight)) held (held ++ [u]) := by
  apply set here
  · intro sane
    exact .grant sane fits
  · intro g n differs
    simp [differs]

end Exchange

theorem releaseAll_exchange (limits : Limits) (held : List Units) :
    Exchange limits (releaseAll limits held) held [] := by
  induction held generalizing limits with
  | nil => exact .refl limits []
  | cons u rest ih =>
    refine .trans (.update (i := u.limit) (fun l _ sane => .release sane) fun g n differs => ?_) (ih _)
    simp [differs]

theorem spare_releaseAll {limits : Limits} (sane : Sane limits) (held : List Units)
    (n : Nat) (l : Limit) (old : limits[n]? = some l) :
    ∃ l', (releaseAll limits held)[n]? = some l' ∧ l'.spare = l.spare + weightAt n held := by
  have exchange := releaseAll_exchange limits held
  have small := (List.getElem?_eq_some_iff.mp old).1
  rw [← exchange.length] at small
  have new := List.getElem?_eq_getElem small
  have spare := (exchange.each n l _ old new (sane l (List.mem_of_getElem? old))).spare
  exact ⟨_, new, spare⟩

end Limits

namespace Limits

variable {limits limits' : Limits} {before after held held' : List Units}

/-- The limits and the units that are held elsewhere account for each other. -/
structure Balanced (limits : Limits) (held : List Units) : Prop where
  sane : Sane limits
  spare : ∀ (n : Nat) l, limits[n]? = some l → l.spare + weightAt n held = l.capacity
  counted : ∀ (n : Nat) l, limits[n]? = some l → l.acquired = l.released + countAt n held

theorem Balanced.fresh (caps : List (String × Nat)) :
    Balanced (caps.map fun c => .new c.1 c.2) [] := by
  refine ⟨fun l member => ?_, fun n l here => ?_, fun n l here => ?_⟩
  · obtain ⟨c, -, rfl⟩ := List.mem_map.mp member
    exact ⟨by simp [Limit.new], by simp [Limit.new], by simp [Limit.new]⟩
  · obtain ⟨c, -, rfl⟩ := List.mem_map.mp (List.mem_of_getElem? here)
    simp [Limit.spare, Limit.new, weightAt]
  · obtain ⟨c, -, rfl⟩ := List.mem_map.mp (List.mem_of_getElem? here)
    simp [Limit.new, countAt]

theorem Balanced.exchange (h : Balanced limits held) (e : Exchange limits limits' before after)
    (swap : ∀ f n, tally f n held' + tally f n before = tally f n held + tally f n after) :
    Balanced limits' held' := by
  have each (n : Nat) (l' : Limit) (new : limits'[n]? = some l') : ∃ l,
      limits[n]? = some l ∧ l.Exchange n l' before after := by
    obtain ⟨l, old⟩ := e.back new
    exact ⟨l, old, e.each n l l' old new (h.sane l (List.mem_of_getElem? old))⟩
  refine ⟨e.sane h.sane, fun n l' new => ?_, fun n l' new => ?_⟩
  · obtain ⟨l, old, traded⟩ := each n l' new
    have spare := traded.spare
    have balance := h.spare n l old
    have moved := swap (·.weight) n
    rw [traded.onward.capacity]
    unfold weightAt at *
    omega
  · obtain ⟨l, old, traded⟩ := each n l' new
    have counted := traded.counted
    have balance := h.counted n l old
    have moved := swap (fun _ => 1) n
    unfold countAt at *
    omega

end Limits

namespace Acquisition

open Limits

variable {limits limits' : Limits} {before after units : List Units} {a : Acquisition}

def Filed (limits : Limits) (a : Acquisition) : Prop :=
  ∀ ticket u rest, a.ticket = some ticket → a.wanted = u :: rest → ∀ l, limits[u.limit]? = some l →
    ticket < l.nextTicket ∧ ∀ c ∈ l.claims, c.ticket = ticket → c.weight = u.weight

theorem Filed.kept (h : a.Filed limits) (sane : Limits.Sane limits)
    (e : Exchange limits limits' before after) : a.Filed limits' := by
  intro ticket u rest waits next l' new
  obtain ⟨l, old⟩ := e.back new
  obtain ⟨small, filed⟩ := h ticket u rest waits next l old
  have onward := (e.each _ l l' old new (sane l (List.mem_of_getElem? old))).onward
  refine ⟨Nat.lt_of_lt_of_le small onward.tickets, fun c' member mine => ?_⟩
  obtain ⟨c, member, ticket, weight⟩ := onward.claims c' member (mine ▸ small)
  exact weight ▸ filed c member (ticket.trans mine)

theorem abandon_exchange (limits : Limits) (a : Acquisition) :
    Exchange limits (a.abandon limits) a.held [] := by
  refine .trans ?_ (releaseAll_exchange _ _)
  split
  · exact .update (fun l _ sane => .withdraw sane) fun g n _ => rfl
  · exact .refl limits a.held

def Progress.held : Progress → List Units
  | .waiting rest => rest.held
  | .granted held => held
  | .refused _ => []

def Progress.Fits (limits : Limits) (units : List Units) : Progress → Prop
  | .waiting rest => rest.held ++ rest.wanted = units ∧ rest.Filed limits
  | .granted held => held = units
  | .refused _ => True

theorem advance_exchange (limits : Limits) (held : List Units) (deadline : Option Nat)
    (wanted : List Units) : Exchange limits (advance limits held deadline wanted).1 held
      (advance limits held deadline wanted).2.held := by
  induction wanted generalizing limits held with
  | nil => exact .refl limits held
  | cons u rest ih =>
    unfold advance
    split
    · exact releaseAll_exchange limits held
    · rename_i l here
      split
      · exact releaseAll_exchange limits held
      · rename_i l' requested
        obtain ⟨-, fits, rfl⟩ | ⟨waits, -⟩ := Limit.request_cases requested
        · exact (Exchange.grant here fits held).trans (ih _ _)
        · cases waits
      · rename_i l' ticket requested
        obtain ⟨granted, -⟩ | ⟨-, scarce, rfl⟩ := Limit.request_cases requested
        · cases granted
        · exact .set here (fun sane => .claim sane scarce) fun g n _ => rfl

theorem advance_matched (sane : Limits.Sane limits) (held : List Units) (deadline : Option Nat)
    (wanted : List Units) : (advance limits held deadline wanted).2.Fits
      (advance limits held deadline wanted).1 (held ++ wanted) := by
  induction wanted generalizing limits held with
  | nil => exact (List.append_nil held).symm
  | cons u rest ih =>
    unfold advance
    split
    · trivial
    · rename_i l here
      split
      · trivial
      · rename_i l' requested
        obtain ⟨-, fits, rfl⟩ | ⟨waits, -⟩ := Limit.request_cases requested
        · have granted := Exchange.grant here fits held
          have matched := ih (granted.sane sane) (held ++ [u])
          rwa [List.append_assoc, List.singleton_append] at matched
        · cases waits
      · rename_i l' ticket requested
        obtain ⟨granted, -⟩ | ⟨taken, scarce, rfl⟩ := Limit.request_cases requested
        · cases granted
        · cases taken
          -- the claim just left is the only one under its ticket
          refine ⟨rfl, fun ticket v others waits next k there => ?_⟩
          cases waits
          cases next
          have small := (List.getElem?_eq_some_iff.mp here).1
          rw [List.getElem?_set_self small, Option.some.injEq] at there
          subst there
          refine ⟨Nat.lt_succ_self _, fun c member mine => ?_⟩
          rcases List.mem_append.mp member with old | new
          · have earlier := (sane l (List.mem_of_getElem? here)).numbered c old
            exact absurd mine (Nat.ne_of_lt earlier)
          · rw [List.mem_singleton.mp new]

def collect (limits : Limits) (a : Acquisition) : Limits × Progress :=
  match a.ticket, a.wanted with
  | some ticket, u :: rest =>
    if a.complete limits then
      advance (Limits.update limits u.limit (·.collect ticket)) (a.held ++ [u]) a.deadline rest
    else (limits, .waiting a)
  | _, _ => advance limits a.held a.deadline a.wanted

theorem poll_cases (limits : Limits) (a : Acquisition) (now : Nat) :
    a.poll limits now = a.collect limits ∨ ∃ rest, (a.collect limits).2 = .waiting rest ∧
      a.poll limits now = (rest.abandon (a.collect limits).1, .refused .exhausted) := by
  unfold poll
  split
  rename_i limits' progress collected
  have same : a.collect limits = (limits', progress) := collected
  rw [same]
  cases progress with
  | waiting rest =>
    dsimp only
    split
    · exact .inr ⟨rest, rfl, rfl⟩
    · exact .inl rfl
  | granted held => exact .inl rfl
  | refused error => exact .inl rfl

theorem collect_exchange (filed : a.Filed limits) {ticket : Nat} {u : Units} {rest : List Units}
    (waits : a.ticket = some ticket) (next : a.wanted = u :: rest)
    (complete : a.complete limits = true) :
    Exchange limits (Limits.update limits u.limit (·.collect ticket)) a.held (a.held ++ [u]) := by
  refine .update (fun l here sane => ?_) fun g n differs => by simp [differs]
  simp only [Acquisition.complete, waits, next, here, Option.any_some, Limit.isComplete,
    Option.any_eq_true, beq_iff_eq] at complete
  obtain ⟨c, found, full⟩ := complete
  obtain ⟨member, mine⟩ := sane.claim?_eq_some_iff.mp found
  have weight := (filed ticket u rest waits next l here).2 c member mine
  have collected : l.Exchange u.limit (l.collect ticket) a.held
      (a.held ++ [⟨u.limit, c.weight⟩]) := .collect sane found full
  rwa [weight] at collected

theorem collect_spec (sane : Limits.Sane limits) (filed : a.Filed limits) :
    Exchange limits (a.collect limits).1 a.held (a.collect limits).2.held ∧
      (a.collect limits).2.Fits (a.collect limits).1 (a.held ++ a.wanted) := by
  unfold collect
  split
  · rename_i ticket u rest waits next
    split
    · rename_i complete
      have collected := collect_exchange filed waits next complete
      have matched := advance_matched (collected.sane sane) (a.held ++ [u]) a.deadline rest
      rw [List.append_assoc, List.singleton_append, ← next] at matched
      exact ⟨collected.trans (advance_exchange _ _ _ _), matched⟩
    · exact ⟨.refl limits a.held, rfl, filed⟩
  · exact ⟨advance_exchange _ _ _ _, advance_matched sane _ _ _⟩

/-- What a poll trades with the limits, and what it leaves the acquisition with. -/
theorem poll_spec (now : Nat) (sane : Limits.Sane limits) (filed : a.Filed limits) :
    Exchange limits (a.poll limits now).1 a.held (a.poll limits now).2.held ∧
      (a.poll limits now).2.Fits (a.poll limits now).1 (a.held ++ a.wanted) := by
  have collected := collect_spec sane filed
  rcases poll_cases limits a now with same | ⟨rest, waits, same⟩
  · rw [same]
    exact collected
  · rw [same]
    rw [waits] at collected
    exact ⟨collected.1.trans (abandon_exchange _ rest), trivial⟩

end Acquisition

end Fanout
