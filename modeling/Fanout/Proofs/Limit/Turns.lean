import Fanout.Proofs.Limit.Refusal

namespace Fanout

namespace Limits

def acquiredAt (limits : Limits) (n : Nat) : Nat := limits[n]?.elim 0 Limit.acquired

theorem acquiredAt_eq {limits : Limits} {n : Nat} {l : Limit} (here : limits[n]? = some l) :
    limits.acquiredAt n = l.acquired := by
  rw [acquiredAt, here]
  rfl

theorem acquiredAt_update {f : Limit → Limit} (same : ∀ l, (f l).acquired = l.acquired)
    (limits : Limits) (i n : Nat) : (update limits i f).acquiredAt n = limits.acquiredAt n := by
  unfold acquiredAt update
  by_cases own : i = n
  · subst own
    rw [List.getElem?_modify_eq]
    cases limits[i]? with
    | none => rfl
    | some l => exact same l
  · simp [own]

theorem acquiredAt_releaseAll (limits : Limits) (held : List Units) (n : Nat) :
    (releaseAll limits held).acquiredAt n = limits.acquiredAt n := by
  induction held generalizing limits with
  | nil => rfl
  | cons u rest ih =>
    have first : (update limits u.limit (·.release u.weight)).acquiredAt n = limits.acquiredAt n :=
      acquiredAt_update (f := (·.release u.weight)) (fun _ => rfl) limits u.limit n
    exact (ih _).trans first

end Limits

theorem Limit.acquired_withdraw (ticket : Nat) (l : Limit) :
    (l.withdraw ticket).acquired = l.acquired := by
  unfold withdraw
  split
  · rfl
  · rfl

namespace Acquisition

variable {limits : Limits} {a rest : Acquisition} {held wanted : List Units}
  {deadline : Option Nat}

theorem acquiredAt_abandon (limits : Limits) (a : Acquisition) (n : Nat) :
    (a.abandon limits).acquiredAt n = limits.acquiredAt n := by
  unfold abandon
  rw [Limits.acquiredAt_releaseAll]
  split
  · exact Limits.acquiredAt_update (Limit.acquired_withdraw _) limits _ n
  · rfl

theorem incomplete_of_claim {l : Limit} {u : Units} (sane : l.Sane) (here : limits[u.limit]? = some l)
    (scarce : l.available < u.weight) (others : List Units) :
    let left : Limit :=
      { l with
        available := 0
        claims := l.claims ++ [⟨l.nextTicket, u.weight, u.weight - l.available⟩]
        nextTicket := l.nextTicket + 1 }
    (⟨u :: others, held, some l.nextTicket, deadline⟩ : Acquisition).complete
      (limits.set u.limit left) = false := by
  intro left
  have small := (List.getElem?_eq_some_iff.mp here).1
  have exchange : Limit.Exchange 0 l left [] [] := .claim sane scarce
  have claimed : left.Sane := exchange.sane
  have found : left.claim? l.nextTicket =
      some ⟨l.nextTicket, u.weight, u.weight - l.available⟩ := by
    apply claimed.claim?_eq_some_iff.mpr
    exact ⟨List.mem_append_right _ (List.mem_singleton.mpr rfl), rfl⟩
  simp only [complete, List.getElem?_set_self small, Option.any_some, Limit.isComplete, found,
    beq_eq_false_iff_ne]
  omega

theorem advance_waiting (sane : Limits.Sane limits)
    (waits : (advance limits held deadline wanted).2 = .waiting rest) :
    rest.complete (advance limits held deadline wanted).1 = false ∧ rest.deadline = deadline := by
  induction wanted generalizing limits held with
  | nil => cases waits
  | cons u others ih =>
    unfold advance at waits ⊢
    split at waits
    · cases waits
    · rename_i l here
      split at waits
      · cases waits
      · rename_i l' requested
        obtain ⟨-, fits, rfl⟩ | ⟨taken, -⟩ := Limit.request_cases requested
        · exact ih ((Limits.Exchange.grant here fits held).sane sane) waits
        · cases taken
      · rename_i l' ticket requested
        obtain ⟨granted, -⟩ | ⟨taken, scarce, rfl⟩ := Limit.request_cases requested
        · cases granted
        · cases taken
          cases waits
          exact ⟨incomplete_of_claim (sane l (List.mem_of_getElem? here)) here scarce others, rfl⟩

theorem advance_exhausted
    (exhausted : (advance limits held deadline wanted).2 = .refused .exhausted) :
    ∃ u ∈ wanted, limits[u.limit]? = none := by
  induction wanted generalizing limits held with
  | nil => cases exhausted
  | cons u others ih =>
    unfold advance at exhausted
    split at exhausted
    · rename_i missing
      exact ⟨u, List.mem_cons_self, missing⟩
    · rename_i l here
      split at exhausted
      · rename_i e requested
        obtain ⟨-, rfl⟩ := Limit.request_error requested
        cases exhausted
      · obtain ⟨v, member, missing⟩ := ih exhausted
        rw [List.getElem?_eq_none_iff, List.length_set, ← List.getElem?_eq_none_iff] at missing
        exact ⟨v, List.mem_cons_of_mem _ member, missing⟩
      · cases exhausted

/-- How a turn leaves the acquisition `a`. It waits for units that are not there, and it is told that
there are none only when its time is over, or if it wants units of a limit that does not exist. -/
def Progress.Final (limits : Limits) (now : Nat) (a : Acquisition) : Progress → Prop
  | .waiting rest => rest.ready limits now = false ∧ rest.deadline = a.deadline
  | .granted _ => True
  | .refused e =>
    e = .exhausted → a.expired now = true ∨ ∃ u ∈ a.wanted, limits[u.limit]? = none

theorem collect_waiting (sane : Limits.Sane limits) (filed : a.Filed limits)
    (waits : (a.collect limits).2 = .waiting rest) :
    rest.complete (a.collect limits).1 = false ∧ rest.deadline = a.deadline := by
  unfold collect at waits ⊢
  split at waits
  · rename_i ticket u others mine next
    split at waits
    · rename_i complete
      simp only [complete, if_true]
      exact advance_waiting ((collect_exchange filed mine next complete).sane sane) waits
    · rename_i incomplete
      cases waits
      rw [if_neg incomplete]
      exact ⟨Bool.not_eq_true _ ▸ incomplete, rfl⟩
  · exact advance_waiting sane waits

theorem collect_exhausted (exhausted : (a.collect limits).2 = .refused .exhausted) :
    ∃ u ∈ a.wanted, limits[u.limit]? = none := by
  unfold collect at exhausted
  split at exhausted
  · rename_i ticket u others mine next
    split at exhausted
    · obtain ⟨v, member, missing⟩ := advance_exhausted exhausted
      rw [List.getElem?_eq_none_iff, Limits.update, List.length_modify,
        ← List.getElem?_eq_none_iff] at missing
      exact ⟨v, next ▸ List.mem_cons_of_mem _ member, missing⟩
    · cases exhausted
  · exact advance_exhausted exhausted

theorem poll_of_waiting (waits : (a.collect limits).2 = .waiting rest) (now : Nat) :
    a.poll limits now =
      if rest.expired now then (rest.abandon (a.collect limits).1, .refused .exhausted)
      else ((a.collect limits).1, .waiting rest) := by
  unfold poll
  split
  rename_i limits' progress collected
  have same : a.collect limits = (limits', progress) := collected
  rw [same] at waits ⊢
  cases waits
  rfl

theorem poll_final (now : Nat) (sane : Limits.Sane limits) (filed : a.Filed limits) :
    (a.poll limits now).2.Final (a.poll limits now).1 now a := by
  have missing (u : Units) (absent : limits[u.limit]? = none) :
      (a.poll limits now).1[u.limit]? = none := by
    rw [List.getElem?_eq_none_iff, (poll_spec now sane filed).1.length]
    exact List.getElem?_eq_none_iff.mp absent
  cases progress : (a.collect limits).2 with
  | waiting rest =>
    obtain ⟨incomplete, deadline⟩ := collect_waiting sane filed progress
    have own : rest.expired now = a.expired now := by rw [expired, expired, deadline]
    rw [poll_of_waiting progress]
    split
    · rename_i late
      exact fun _ => .inl (own ▸ late)
    · rename_i early
      refine ⟨?_, deadline⟩
      rw [ready, incomplete, Bool.false_or]
      exact Bool.not_eq_true _ ▸ early
  | granted held =>
    rcases poll_cases limits a now with same | ⟨rest, waits, -⟩
    · rw [same, progress]
      trivial
    · rw [progress] at waits
      cases waits
  | refused e =>
    rcases poll_cases limits a now with same | ⟨rest, waits, -⟩
    · rw [same] at missing ⊢
      rw [progress]
      rintro rfl
      obtain ⟨u, member, absent⟩ := collect_exhausted progress
      exact .inr ⟨u, member, missing u absent⟩
    · rw [progress] at waits
      cases waits

end Acquisition

end Fanout
