import Fanout.Proofs.Broker.Reached

namespace Fanout.Broker

variable {b b' : Broker} {i : Nat} {place : SinkPlace}

inductive Effect (b b' : Broker) : Prop
  | fade (registry : b.registry.Shrinks b'.registry)
      (lines : b'.pulls.map Pull.line = b.pulls.map Pull.line)
  | seat {i guard : Nat} {r : Request} {place : SinkPlace} {first : Bool}
      (here : b.openings[i]? = some ⟨r, .queued guard⟩) (held : b.locks.holds guard = true)
      (up : b.shutdown = false) (seat : b.registry.Seat r.key b'.registry place first)
      (pulls : b'.pulls = b.pulls)
  | start {i guard : Nat} {r : Request} {place : SinkPlace} {a : Acquisition}
      (here : b.openings[i]? = some ⟨r, .acquiring guard place a⟩)
      (registry : b'.registry = b.registry)
      (lines : b'.pulls.map Pull.line = b.pulls.map Pull.line ++ [(r.key, place.1)])

theorem Effect.still (registry : b'.registry = b.registry) (pulls : b'.pulls = b.pulls) :
    b.Effect b' :=
  .fade (.of_same (by rw [registry]) (by rw [registry])) (by rw [pulls])

theorem OuterMove.shrinks (move : b.OuterMove b') : b.registry.Shrinks b'.registry := by
  cases move with
  | ask | token | cancel | dropReader | drop | letGo => exact .of_same rfl rfl
  | sweep => exact Registry.evictEmpty_shutWhere.shrinks (Registry.evictFrom_sublist _)
  | shutDown =>
    refine (Registry.stopAll_shutWhere b.now).shrinks ?_
    rw [Registry.stopAll_table]
    exact List.nil_sublist _
  | giveUp here changed => exact changed.shrinks fun s => .depart s _

theorem OpenMove.effect (move : b.OpenMove i b') (l : b.registry.Listed) : b.Effect b' := by
  cases move with
  | refuse | queue | turnAway | wait => exact .still rfl rfl
  | arrive deadline here held up seated => exact .seat here held up (seated.seat l) rfl
  | join here held up seated => exact .seat here held up (seated.seat l) rfl
  | grant here up poll => exact .start here rfl List.map_append
  | deny here denied changed => exact .fade (changed.shrinks fun s => .unseat s _) rfl
  | denyGone here denied gone changed => exact .fade (changed.shrinks .retireIfEmpty) rfl
  | dispose here changed => exact .fade (changed.shrinks .retireIfEmpty) rfl

theorem DepartMove.shrinks (move : b.DepartMove i b') : b.registry.Shrinks b'.registry := by
  cases move with
  | queue | done => exact .of_same rfl rfl
  | depart here queued held changed left => exact changed.shrinks fun s => .depart s _

theorem PullMove.shrinks (move : b.PullMove i b') : b.registry.Shrinks b'.registry := by
  cases move with
  | queue | finish | notice => exact .of_same rfl rfl
  | subscribe here queued held old changed => exact changed.shrinks .subscribe
  | endFeed ending canceled here running changed =>
    exact changed.shrinks fun s => .retire_withdraw s _
  | close sinks here leaving held changed => exact changed.shrinks .shut

theorem StopMove.shrinks (move : b.StopMove i b') : b.registry.Shrinks b'.registry := by
  cases move with
  | queue | leave => exact .of_same rfl rfl
  | stop here queued held found changed out => exact changed.shrinks .shut

theorem Move.effect (move : Move b b') (l : b.registry.Listed) : b.Effect b' := by
  cases move with
  | quiet same => exact .fade (.of_same same.rosters same.table) same.lines
  | outer move => exact .fade move.shrinks (by cases move <;> rfl)
  | opening move => exact move.effect l
  | departure move => exact .fade move.shrinks (by cases move <;> rfl)
  | pull move => exact .fade move.shrinks move.lines
  | stop move => exact .fade move.shrinks (by cases move <;> rfl)

def Gone (b : Broker) (place : SinkPlace) : Prop :=
  ∃ s, b.roster? place.1 = some s ∧ place.2 ≤ s.seats ∧ place.2 ∉ s.present

theorem Gone.detached (h : b.Gone place) : b.attached place = false := by
  obtain ⟨s, old, -, gone⟩ := h
  rw [Bool.eq_false_iff, Ne, attached_iff]
  rintro ⟨t, there, present⟩
  rw [old, Option.some.injEq] at there
  exact gone (there ▸ present)

theorem attached_of_shrinks (f : b.registry.Shrinks b'.registry) (present : b'.attached place = true) :
    b.attached place = true := by
  obtain ⟨s', new, member⟩ := attached_iff.mp present
  obtain ⟨s, old, shrinks⟩ := f.back new
  exact attached_iff.mpr ⟨s, old, shrinks.left _ member⟩

theorem attached_of_seat {key : StreamKey} {seat : SinkPlace} {first : Bool}
    (h : b.registry.Seat key b'.registry seat first) (present : b'.attached place = true) :
    b.attached place = true ∨ place = seat := by
  obtain ⟨s', new, member⟩ := attached_iff.mp present
  by_cases same : place.1 = seat.1
  · cases h with
    | found s old named opened number alone rosters table =>
      rw [same, roster?, rosters, Function.update_self, Option.some.injEq] at new
      subst new
      rcases List.mem_append.mp member with earlier | own
      · exact .inl (attached_iff.mpr ⟨s, same ▸ old, earlier⟩)
      · exact .inr (Prod.ext same ((List.mem_singleton.mp own).trans number.symm))
    | made missing number alone closed rosters table =>
      rw [same, roster?, rosters, Function.update_self, Option.some.injEq] at new
      subst new
      exact .inr (Prod.ext same ((List.mem_singleton.mp member).trans number.symm))
  · exact .inl (attached_iff.mpr ⟨s', (h.other same).symm.trans new, member⟩)

theorem Gone.move (h : b.Gone place) (sound : b.Sound) (move : Move b b') : b'.Gone place := by
  obtain ⟨s, old, seated, gone⟩ := h
  cases move.effect sound.listed with
  | fade registry lines =>
    obtain ⟨s', new, shrinks⟩ := registry.rosters _ _ old
    exact ⟨s', new, Nat.le_trans seated shrinks.later.seats, fun back => gone (shrinks.left _ back)⟩
  | seat here held up seat pulls =>
    obtain ⟨s', new, rfl | ⟨-, opened, rfl⟩⟩ := seat.forth old
    · exact ⟨s', new, seated, gone⟩
    · have keeps : Roster.Keeps place.2 s s.seat := .seat opened
      exact ⟨_, new, Nat.le_succ_of_le seated, keeps.gone seated gone⟩
  | start here registry lines => exact ⟨s, by rw [roster?, registry]; exact old, seated, gone⟩

theorem Gone.after (h : b.Gone place) (sound : b.Sound) (events : List Event) :
    (b.after events).Gone place := by
  have moves := sound.moves_after events
  generalize b.after events = b' at moves
  induction moves with
  | refl => exact h
  | tail earlier move ih => exact ih.move (sound.moves earlier) move

end Fanout.Broker
