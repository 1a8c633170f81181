import Fanout.Proofs.Broker.Lifetime

namespace Fanout.Broker

variable {b b' m m' : Broker} {i : Nat} {place : SinkPlace} {e : Event} {o : Opening}
  {s : Roster} {f : Roster → Roster}

def Waits (b : Broker) (i : Nat) (place : SinkPlace) : Prop :=
  ∃ r guard a, b.openings[i]? = some ⟨r, .acquiring guard place a⟩

def Serves (b : Broker) (i : Nat) (place : SinkPlace) : Prop :=
  ∃ r k, b.openings[i]? = some ⟨r, .opened place k⟩

theorem Waits.same (h : b.Waits i place) (openings : b'.openings[i]? = b.openings[i]?) :
    b'.Waits i place := by
  obtain ⟨r, guard, a, here⟩ := h
  exact ⟨r, guard, a, openings.trans here⟩

theorem Serves.same (h : b.Serves i place) (openings : b'.openings[i]? = b.openings[i]?) :
    b'.Serves i place := by
  obtain ⟨r, k, here⟩ := h
  exact ⟨r, k, openings.trans here⟩

theorem Serves.answered (h : b.Serves i place) : b.Answered i := by
  obtain ⟨r, k, here⟩ := h
  exact ⟨r, place, k, here⟩

theorem Waits.gone (waits : b.Waits i place) (h : b.Sound)
    (changed : Registry.Changed place.1 f b.registry b'.registry)
    (shrinks : ∀ s : Roster, s.Shrinks (f s))
    (left : ∀ s, b.roster? place.1 = some s → place.2 ∉ (f s).present) : b'.Gone place := by
  obtain ⟨r, guard, a, here⟩ := waits
  obtain ⟨s, old, awaits⟩ := h.openingsFit.acquiring i r guard place a here
  exact ⟨f s, changed.self old, Nat.le_trans awaits.seated (shrinks s).later.seats, left s old⟩

theorem opening_of_set {state : OpenState} (here : m.openings[i]? = some o)
    (set : m'.openings = (m.setOpening i state).openings) :
    m'.openings[i]? = some ⟨o.request, state⟩ := by
  rw [set]
  exact getElem?_setOpening here state

theorem OuterMove.gone_or_waits (move : m.OuterMove m') (h : m.Sound) (waits : m.Waits i place) :
    m'.Gone place ∨ m'.Waits i place := by
  obtain ⟨r, guard, a, here⟩ := id waits
  cases move with
  | ask r' =>
    have small := (List.getElem?_eq_some_iff.mp here).1
    exact .inr (waits.same (List.getElem?_append_left small))
  | token | cancel | dropReader | sweep | shutDown => exact .inr (waits.same rfl)
  | @drop j o there out =>
    have differs : i ≠ j := by
      rintro rfl
      cases here.symm.trans there
      cases out
    exact .inr (waits.same (opening_other m _ differs))
  | @letGo j guard' o there guarded =>
    have differs : i ≠ j := by
      rintro rfl
      cases here.symm.trans there
      rcases guarded with queued | ⟨_, _, disposing⟩
      · cases queued
      · cases disposing
    exact .inr (waits.same (opening_other (m.leave guard') _ differs))
  | @giveUp j guard' r' place' a' g there changed =>
    by_cases same : i = j
    · subst same
      cases here.symm.trans there
      exact .inl (waits.gone h changed (fun s => .depart s _) fun s _ => s.not_mem_depart _)
    · exact .inr (waits.same (opening_other
        ({ m with limits := a'.abandon m.limits, registry := g }.leave guard') _ same))

theorem OpenMove.gone_or_waits (move : m.OpenMove i m') (h : m.Sound) (waits : m.Waits i place) :
    m'.Gone place ∨ m'.Waits i place ∨ m'.Serves i place := by
  obtain ⟨r, guard, a, here⟩ := id waits
  cases move with
  | refuse error there | queue there up | turnAway there | arrive deadline there held up seated
  | join there held up seated | dispose there changed =>
    cases here.symm.trans there
  | wait there poll =>
    cases here.symm.trans there
    exact .inr (.inl ⟨r, guard, _, opening_of_set here rfl⟩)
  | grant there up poll =>
    cases here.symm.trans there
    exact .inr (.inr ⟨r, _, opening_of_set here rfl⟩)
  | deny there denied changed =>
    cases here.symm.trans there
    refine .inl (waits.gone h changed (fun s => .unseat s _) fun s _ present => ?_)
    exact (Roster.mem_unseat.mp present).2 rfl
  | denyGone there denied gone changed =>
    cases here.symm.trans there
    refine .inl (waits.gone h changed .retireIfEmpty fun s old present => ?_)
    exact gone s old ((Roster.Shrinks.retireIfEmpty s).left _ present)

theorem gone_or_waits_of_mover (moved : e.mover m m') (other : e ≠ .run (.opening i)) (h : m.Sound)
    (waits : m.Waits i place) : m'.Gone place ∨ m'.Waits i place := by
  unfold Event.mover at moved
  split at moved
  · rename_i j
    have differs : i ≠ j := fun same => other (same ▸ rfl)
    exact .inr (waits.same (moved.other differs))
  · exact .inr (waits.same (by cases moved <;> rfl))
  · exact .inr (waits.same (by cases moved <;> rfl))
  · exact .inr (waits.same (by cases moved <;> rfl))
  · exact .inr (waits.same (by cases moved <;> rfl))
  · exact .inr (waits.same (by cases moved <;> rfl))
  · exact .inr (waits.same (by cases moved <;> rfl))
  · exact moved.gone_or_waits h waits

theorem OpenMove.sets (move : m.OpenMove i m') :
    ∃ o state, m.openings[i]? = some o ∧ o.state.pending = true ∧
      m'.openings = (m.setOpening i state).openings ∧ state ≠ .abandoned := by
  cases move with
  | refuse error here | queue here up | turnAway here | arrive deadline here held up seated
  | join here held up seated | wait here poll | grant here up poll | deny here denied changed
  | denyGone here denied gone changed | dispose here changed =>
    exact ⟨_, _, here, rfl, rfl, nofun⟩

theorem OpenMove.not_serves (move : m.OpenMove i m') : ¬ m.Serves i place := by
  rintro ⟨r, k, here⟩
  obtain ⟨o, state, there, pending, -⟩ := OpenMove.sets move
  cases here.symm.trans there
  cases pending

theorem Gone.same (h : b.Gone place) (rosters : b'.registry.roster? = b.registry.roster?) :
    b'.Gone place := by
  obtain ⟨s, old, facts⟩ := h
  exact ⟨s, (congrFun rosters place.1).trans old, facts⟩

namespace Sound

/-- A viewer who waits is gone, still waits, or has been given its reader. -/
theorem gone_or_waits (h : b.Sound) (e : Event) (waits : b.Waits i place) :
    (b.step e).Gone place ∨ (b.step e).Waits i place ∨ (b.step e).Answered i := by
  -- nobody but the open itself can give the viewer its reader
  by_cases own : e = .run (.opening i)
  · subst own
    have gone_or_waits := h.along (.run (.opening i))
      (P := fun m => m.Gone place ∨ m.Waits i place ∨ m.Serves i place) (.inr (.inl waits))
      (fun m m' same gone_or_waits => by
        have openings : m'.openings[i]? = m.openings[i]? := by rw [same.openings]
        exact gone_or_waits.imp (·.same same.rosters) (Or.imp (·.same openings) (·.same openings)))
      (fun m m' sound moved gone_or_waits => by
        rcases gone_or_waits with gone | waits | serves
        · exact .inl (gone.move sound (move_of_mover moved))
        · exact OpenMove.gone_or_waits moved sound waits
        · exact absurd serves (OpenMove.not_serves moved))
    exact gone_or_waits.imp_right (Or.imp_right Serves.answered)
  · have gone_or_waits := h.along e (P := fun m => m.Gone place ∨ m.Waits i place) (.inr waits)
      (fun m m' same gone_or_waits =>
        gone_or_waits.imp (·.same same.rosters) (·.same (by rw [same.openings])))
      (fun m m' sound moved gone_or_waits => by
        rcases gone_or_waits with gone | waits
        · exact .inl (gone.move sound (move_of_mover moved))
        · exact gone_or_waits_of_mover moved own sound waits)
    exact gone_or_waits.imp_right .inl

theorem gone_or_waits_after (h : b.Sound) (events : List Event) (waits : b.Waits i place)
    (there : (b.after events).openings[i]? = some o) (pending : o.state.pending = true) :
    (b.after events).Gone place ∨ (b.after events).Waits i place := by
  induction events generalizing b with
  | nil => exact .inr waits
  | cons e rest ih =>
    rcases h.gone_or_waits e waits with gone | waits | ⟨r, seat, k, answered⟩
    · exact .inl (gone.after (h.step e) rest)
    · exact ih (h.step e) waits there
    · obtain ⟨-, alive⟩ := (h.step e).pending_back rest answered there pending
      cases alive

end Sound

theorem attached_of_same (same : m.Quiet m') (present : m'.attached place = true) :
    m.attached place = true :=
  attached_of_shrinks (.of_same same.rosters same.table) present

theorem OpenMove.newcomer (move : m.OpenMove i m') (h : m.Sound)
    (present : m'.attached place = true) :
    m.attached place = true ∨ m'.Waits i place ∨ m'.Serves i place := by
  cases move with
  | refuse | queue | turnAway | wait | grant => exact .inl present
  | arrive deadline here held up seated =>
    rcases attached_of_seat (seated.seat h.listed) present with old | rfl
    · exact .inl old
    · exact .inr (.inl ⟨_, _, _, opening_of_set here rfl⟩)
  | join here held up seated =>
    rcases attached_of_seat (seated.seat h.listed) present with old | rfl
    · exact .inl old
    · exact .inr (.inr ⟨_, _, opening_of_set here rfl⟩)
  | deny here denied changed =>
    exact .inl (attached_of_shrinks (changed.shrinks fun s => .unseat s _) present)
  | denyGone here denied gone changed =>
    exact .inl (attached_of_shrinks (changed.shrinks .retireIfEmpty) present)
  | dispose here changed =>
    exact .inl (attached_of_shrinks (changed.shrinks .retireIfEmpty) present)

namespace Sound

theorem newcomer (h : b.Sound) (own : e.isOf i = true) (present : (b.step e).attached place = true)
    (absent : b.attached place = false) :
    (b.step e).Waits i place ∨ (b.step e).Answered i := by
  rcases Event.isOf_iff.mp own with rfl | rfl
  · have newcomer := h.along (.run (.opening i))
      (P := fun m => m.attached place = true →
        b.attached place = true ∨ m.Waits i place ∨ m.Serves i place) .inl
      (fun m m' same before present => by
        have openings : m'.openings[i]? = m.openings[i]? := by rw [same.openings]
        exact (before (attached_of_same same present)).imp_right
          (Or.imp (·.same openings) (·.same openings)))
      (fun m m' sound move before present => by
        rcases OpenMove.newcomer move sound present with earlier | new
        · rcases before earlier with old | waits | serves
          · exact .inl old
          -- who waited before this move and is attached after it has not been taken off by it
          · rcases OpenMove.gone_or_waits move sound waits with gone | goes
            · rw [gone.detached] at present
              cases present
            · exact .inr goes
          · exact absurd serves (OpenMove.not_serves move)
        · exact .inr new)
    rcases newcomer present with old | new
    · rw [absent] at old
      cases old
    · exact new.imp_right Serves.answered
  · have old := h.along (.abandon (.opening i))
      (P := fun m => m.attached place = true → b.attached place = true) id
      (fun m m' same before present => before (attached_of_same same present))
      (fun m m' _ move before present =>
        before (attached_of_shrinks (OuterMove.shrinks move) present)) present
    rw [absent] at old
    cases old

end Sound

end Fanout.Broker
