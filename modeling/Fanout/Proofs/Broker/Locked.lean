import Fanout.Proofs.Broker.Exclusion
import Fanout.Proofs.Broker.Move

namespace Fanout

def Opening.stake? (o : Opening) : Option Stake :=
  match o.state with
  | .queued guard => some ⟨o.request.key, guard, false⟩
  | .acquiring guard _ _ | .disposing guard _ _ => some ⟨o.request.key, guard, true⟩
  | _ => none

def Departure.stake? (d : Departure) : Option Stake :=
  match d.state with
  | .queued guard => some ⟨d.key, guard, false⟩
  | _ => none

def Pull.stake? (p : Pull) : Option Stake :=
  match p.state with
  | .queued guard | .leaving guard _ _ => some ⟨p.key, guard, false⟩
  | _ => none

def Stop.stake? (s : Stop) : Option Stake := s.state.guard?.map fun guard => ⟨s.key, guard, false⟩

namespace Broker

variable {b b' : Broker} {i : Nat}

def stake? (b : Broker) : BrokerTask → Option Stake
  | .opening i => b.openings[i]?.bind Opening.stake?
  | .departure i => b.departures[i]?.bind Departure.stake?
  | .pull i => b.pulls[i]?.bind Pull.stake?
  | .stop i => b.stops[i]?.bind Stop.stake?
  | _ => none

def Locked (b : Broker) : Prop := Assigned b.locks b.stake?

/-- Every living guard belongs to a task that waits for its lock or works under it. -/
def Owned (b : Broker) : Prop :=
  ∀ g ∈ b.locks.guards, ∃ task s, b.stake? task = some s ∧ s.guard = g.id ∧ s.key = g.key

/-- What happens to the locks: nothing, or one task lines up, lets go, or is known to have got in. -/
inductive Shift (b b' : Broker) : Prop
  | stay (locks : b'.locks = b.locks) (stakes : b'.stake? = b.stake?)
  | enter {task : BrokerTask} {key : StreamKey} (vacant : b.stake? task = none)
      (locks : b'.locks = (b.locks.enter key).1)
      (stakes : b'.stake? =
        Function.update b.stake? task (some ⟨key, (b.locks.enter key).2, false⟩))
  | leave {task : BrokerTask} {s : Stake} (staked : b.stake? task = some s)
      (locks : b'.locks = b.locks.leave s.guard)
      (stakes : b'.stake? = Function.update b.stake? task none)
  | getIn {task : BrokerTask} {s : Stake} (staked : b.stake? task = some s)
      (held : b.locks.holds s.guard = true) (locks : b'.locks = b.locks)
      (stakes : b'.stake? = Function.update b.stake? task (some { s with inside := true }))

theorem stake?_setOpening {o : Opening} (here : b.openings[i]? = some o) (state : OpenState) :
    (b.setOpening i state).stake? =
      Function.update b.stake? (.opening i) ({ o with state := state } : Opening).stake? := by
  refine Function.eq_update_iff.mpr ⟨by simp [stake?, setOpening, here], fun task other => ?_⟩
  cases task with
  | opening j =>
    have differs : i ≠ j := fun same => other (same ▸ rfl)
    simp [stake?, setOpening, differs]
  | _ => rfl

theorem stake?_setDeparture {d : Departure} (here : b.departures[i]? = some d)
    (state : DepartureState) :
    (b.setDeparture i state).stake? =
      Function.update b.stake? (.departure i) ({ d with state := state } : Departure).stake? := by
  refine Function.eq_update_iff.mpr ⟨by simp [stake?, setDeparture, here], fun task other => ?_⟩
  cases task with
  | departure j =>
    have differs : i ≠ j := fun same => other (same ▸ rfl)
    simp [stake?, setDeparture, differs]
  | _ => rfl

theorem stake?_updatePull {p : Pull} (here : b.pulls[i]? = some p) (f : Pull → Pull) :
    (b.updatePull i f).stake? = Function.update b.stake? (.pull i) (f p).stake? := by
  refine Function.eq_update_iff.mpr ⟨by simp [stake?, updatePull, here], fun task other => ?_⟩
  cases task with
  | pull j =>
    have differs : i ≠ j := fun same => other (same ▸ rfl)
    simp [stake?, updatePull, differs]
  | _ => rfl

theorem stake?_setStop {s : Stop} (here : b.stops[i]? = some s) (state : StopState) :
    (b.setStop i state).stake? =
      Function.update b.stake? (.stop i) ({ s with state := state } : Stop).stake? := by
  refine Function.eq_update_iff.mpr ⟨by simp [stake?, setStop, here], fun task other => ?_⟩
  cases task with
  | stop j =>
    have differs : i ≠ j := fun same => other (same ▸ rfl)
    simp [stake?, setStop, differs]
  | _ => rfl

theorem stake?_of_opening {o : Opening} (here : b.openings[i]? = some o) :
    b.stake? (.opening i) = o.stake? := by
  simp [stake?, here]

theorem bind_append {α : Type} {f : α → Option Stake} {x : α} (none : f x = none) (xs : List α)
    (i : Nat) : (xs ++ [x])[i]?.bind f = xs[i]?.bind f := by
  rw [List.getElem?_append]
  split
  · rfl
  · rename_i large
    rw [List.getElem?_eq_none_iff.mpr (Nat.le_of_not_lt large)]
    cases i - xs.length <;> simp [none]

theorem stake?_startPull (b : Broker) (r : Request) (relay : Nat) (held : List Units) :
    (b.startPull r relay held).stake? = b.stake? := by
  funext task
  cases task with
  | pull j => exact bind_append (f := Pull.stake?) rfl b.pulls j
  | _ => rfl

theorem stake?_finishOpen {o : Opening} (here : b.openings[i]? = some o) (r : Request)
    (guard : Nat) (place : SinkPlace) :
    (b.finishOpen i r guard place).stake? = Function.update b.stake? (.opening i) none := by
  have watched : ({ b with
      departures := b.departures ++ [{ key := r.key, place := place, token := r.token }] } :
        Broker).stake? = b.stake? := by
    funext task
    cases task with
    | departure j => exact bind_append (f := Departure.stake?) rfl b.departures j
    | _ => rfl
  rw [← watched]
  exact stake?_setOpening (b := { b with
    departures := b.departures ++ [{ key := r.key, place := place, token := r.token }] }) here
      (.opened place b.departures.length)

theorem Quiet.stake? (same : b.Quiet b') : b'.stake? = b.stake? := by
  funext task
  cases task with
  | opening i => simp only [Broker.stake?, same.openings]
  | departure i => simp only [Broker.stake?, same.departures]
  | pull i =>
    have outlines : b'.pulls[i]?.map Pull.outline = b.pulls[i]?.map Pull.outline := by
      rw [← List.getElem?_map, ← List.getElem?_map, same.pulls]
    have stakes (o : Option Pull) : o.bind Pull.stake? = (o.map Pull.outline).bind Pull.stake? := by
      cases o <;> rfl
    exact (stakes _).trans (outlines ▸ (stakes _).symm)
  | stop i =>
    have guards := congrArg (Option.map fun (key, guard) => (⟨key, guard, false⟩ : Stake))
      (same.stops i)
    have stakes (o : Option Stop) : o.bind Stop.stake? =
        (o.bind fun s => s.state.guard?.map (s.key, ·)).map
          fun (key, guard) => (⟨key, guard, false⟩ : Stake) := by
      cases o <;> simp [Stop.stake?, Function.comp_def]
    exact (stakes _).trans (guards.trans (stakes _).symm)
  | _ => rfl

theorem Shift.stayed {task : BrokerTask} {stake : Option Stake} (staked : b.stake? task = stake)
    (locks : b'.locks = b.locks) (stakes : b'.stake? = Function.update b.stake? task stake) :
    b.Shift b' :=
  .stay locks (by rw [stakes, ← staked, Function.update_eq_self])

theorem OuterMove.shift (move : b.OuterMove b') : b.Shift b' := by
  cases move with
  | ask r =>
    refine .stay rfl (funext fun task => ?_)
    cases task with
    | opening i => exact bind_append (f := Opening.stake?) (x := { request := r }) rfl b.openings i
    | _ => rfl
  | dropReader k =>
    refine .stay rfl (funext fun task => ?_)
    cases task with
    | departure i =>
      by_cases there : k = i
      · subst there
        cases here : b.departures[k]? <;> simp [stake?, here, Departure.stake?]
      · simp [stake?, there]
    | _ => rfl
  | token | cancel | sweep | shutDown => exact .stay rfl rfl
  | @drop i o here out =>
    have vacant : o.stake? = none := by
      unfold Opening.stake?
      cases matched : o.state <;> simp_all [OpenState.guard?]
    exact .stayed ((stake?_of_opening here).trans vacant) rfl (stake?_setOpening here .abandoned)
  | @letGo i guard o here guarded =>
    have staked : ∃ inside, o.stake? = some ⟨o.request.key, guard, inside⟩ := by
      unfold Opening.stake?
      rcases guarded with matched | ⟨place, e, matched⟩ <;> simp [matched]
    obtain ⟨inside, staked⟩ := staked
    exact .leave ((stake?_of_opening here).trans staked) rfl (stake?_setOpening here .abandoned)
  | giveUp here changed =>
    exact .leave (stake?_of_opening here) rfl (stake?_setOpening here .abandoned)

theorem OpenMove.shift (move : b.OpenMove i b') : b.Shift b' := by
  cases move with
  | refuse error here =>
    exact .stayed (stake?_of_opening here) rfl (stake?_setOpening here (.refused error))
  | queue here up => exact .enter (stake?_of_opening here) rfl (stake?_setOpening here (.queued _))
  | turnAway here =>
    exact .leave (stake?_of_opening here) rfl (stake?_setOpening here (.refused .closed))
  | arrive deadline here held up seated =>
    exact .getIn (stake?_of_opening here) held rfl (stake?_setOpening here (.acquiring _ _ _))
  | @join guard r pipe g place here held up seated =>
    exact .leave (stake?_of_opening here) rfl (stake?_finishOpen here r guard place)
  | wait here poll =>
    exact .stayed (stake?_of_opening here) rfl (stake?_setOpening here (.acquiring _ _ _))
  | @grant guard r place a limits held here up poll =>
    have pulled := stake?_startPull { b with limits := limits } r place.1 held
    have opened := stake?_finishOpen (b := { b with limits := limits }.startPull r place.1 held) here
      r guard place
    rw [pulled] at opened
    exact .leave (stake?_of_opening here) rfl opened
  | deny here denied changed =>
    exact .stayed (stake?_of_opening here) rfl (stake?_setOpening here (.disposing _ _ _))
  | denyGone here denied gone changed =>
    exact .leave (stake?_of_opening here) rfl (stake?_setOpening here (.refused _))
  | dispose here changed =>
    exact .leave (stake?_of_opening here) rfl (stake?_setOpening here (.refused _))

theorem DepartMove.shift (move : b.DepartMove i b') : b.Shift b' := by
  cases move with
  | queue here watching dismissed =>
    have vacant : b.stake? (.departure i) = none := by
      simp [Broker.stake?, here, Departure.stake?, watching]
    exact .enter vacant rfl (stake?_setDeparture here (.queued _))
  | @depart guard d state g here queued held changed departed =>
    have staked : b.stake? (.departure i) = some ⟨d.key, guard, false⟩ := by
      simp [Broker.stake?, here, Departure.stake?, queued]
    rcases departed with rfl | rfl
    · exact .leave staked rfl (stake?_setDeparture here .closing)
    · exact .leave staked rfl (stake?_setDeparture here .ended)
  | done here closing =>
    have vacant : b.stake? (.departure i) = none := by
      simp [Broker.stake?, here, Departure.stake?, closing]
    exact .stayed vacant rfl (stake?_setDeparture here .ended)

theorem PullMove.shift (move : b.PullMove i b') : b.Shift b' := by
  cases move with
  | queue here starting =>
    have vacant : b.stake? (.pull i) = none := by
      simp [Broker.stake?, here, Pull.stake?, starting]
    exact .enter vacant rfl (stake?_updatePull here _)
  | @subscribe guard p s g here queued held old changed =>
    have staked : b.stake? (.pull i) = some ⟨p.key, guard, false⟩ := by
      simp [Broker.stake?, here, Pull.stake?, queued]
    exact .leave staked rfl (stake?_updatePull here _)
  | endFeed ending canceled here running changed =>
    have vacant : b.stake? (.pull i) = none := by
      simp [Broker.stake?, here, Pull.stake?, running]
    exact .enter vacant rfl (stake?_updatePull here _)
  | @close guard p ending canceled g sinks here leaving held changed =>
    have staked : b.stake? (.pull i) = some ⟨p.key, guard, false⟩ := by
      simp [Broker.stake?, here, Pull.stake?, leaving]
    exact .leave staked rfl (stake?_updatePull here _)
  | finish outcome here closing =>
    have vacant : b.stake? (.pull i) = none := by
      simp [Broker.stake?, here, Pull.stake?, closing]
    exact .stayed vacant rfl (stake?_updatePull here _)
  | @notice p here ready =>
    have staked : b.stake? (.pull i) = p.stake? := by simp [Broker.stake?, here]
    exact .stayed staked rfl (stake?_updatePull here _)

theorem StopMove.shift (move : b.StopMove i b') : b.Shift b' := by
  cases move with
  | queue here starting =>
    have vacant : b.stake? (.stop i) = none := by
      simp [Broker.stake?, here, Stop.stake?, starting, StopState.guard?]
    exact .enter vacant rfl (stake?_setStop here (.queued _))
  | @leave guard s state here queued out =>
    have staked : b.stake? (.stop i) = some ⟨s.key, guard, false⟩ := by
      simp [Broker.stake?, here, Stop.stake?, queued, StopState.guard?]
    refine .leave staked rfl ((stake?_setStop here state).trans ?_)
    rw [Stop.stake?, out]
    rfl
  | @stop guard relay s g state here queued held found changed out =>
    have staked : b.stake? (.stop i) = some ⟨s.key, guard, false⟩ := by
      simp [Broker.stake?, here, Stop.stake?, queued, StopState.guard?]
    refine .leave staked rfl ((stake?_setStop here state).trans ?_)
    rw [Stop.stake?, out]
    rfl

theorem Move.shift (move : Move b b') : b.Shift b' := by
  cases move with
  | quiet same => exact .stay same.locks same.stake?
  | outer move => exact move.shift
  | opening move => exact move.shift
  | departure move => exact move.shift
  | pull move => exact move.shift
  | stop move => exact move.shift

theorem Locked.initial (config : BrokerConfig) (limits : Limits) :
    (Broker.new config limits).Locked := by
  have none : (Broker.new config limits).stake? = fun _ => none := by
    funext task
    cases task <;> rfl
  unfold Locked
  rw [none]
  exact .initial

theorem Locked.shift (h : b.Locked) (shift : b.Shift b') : b'.Locked := by
  unfold Locked at h ⊢
  cases shift with
  | stay locks stakes =>
    rw [locks, stakes]
    exact h
  | enter vacant locks stakes =>
    rw [locks, stakes]
    exact h.enter _ _
  | leave staked locks stakes =>
    rw [locks, stakes]
    exact h.leave staked
  | getIn staked held locks stakes =>
    rw [locks, stakes]
    exact h.getIn staked held

theorem Locked.move (h : b.Locked) (move : Move b b') : b'.Locked := h.shift move.shift

theorem Locked.holds (h : b.Locked) (shift : b.Shift b') {task : BrokerTask} {s : Stake}
    (staked : b.stake? task = some s) (stays : b'.stake? task = some s)
    (held : b.locks.holds s.guard = true) : b'.locks.holds s.guard = true := by
  cases shift with
  | stay locks stakes => rwa [locks]
  | enter vacant locks stakes =>
    rw [locks]
    exact h.valid.holds_enter held
  | @leave other t gone locks stakes =>
    rw [locks]
    refine h.valid.holds_leave held fun same => ?_
    have owner := h.single task other s t staked gone same
    rw [stakes, owner, Function.update_self] at stays
    cases stays
  | getIn staked held' locks stakes => rwa [locks]

theorem Owned.initial (config : BrokerConfig) (limits : Limits) :
    (Broker.new config limits).Owned := fun _ living => absurd living List.not_mem_nil

theorem Owned.move (h : b.Owned) (move : Move b b') : b'.Owned := by
  intro g living
  cases move.shift with
  | stay locks stakes =>
    rw [locks] at living
    rw [stakes]
    exact h g living
  | @enter task key vacant locks stakes =>
    rw [locks, KeyLocks.enter_guards, List.mem_append, List.mem_singleton] at living
    rw [stakes]
    rcases living with old | rfl
    · obtain ⟨owner, s, staked, facts⟩ := h g old
      have differs : owner ≠ task := by
        rintro rfl
        rw [vacant] at staked
        cases staked
      exact ⟨owner, s, by rw [Function.update_of_ne differs, staked], facts⟩
    · exact ⟨task, _, Function.update_self .., KeyLocks.enter_snd, rfl⟩
  | @leave task t staked locks stakes =>
    rw [locks, KeyLocks.leave_guards, List.mem_filter] at living
    rw [stakes]
    obtain ⟨owner, s, owns, guard, key⟩ := h g living.1
    have differs : owner ≠ task := by
      rintro rfl
      rw [staked, Option.some.injEq] at owns
      subst owns
      simp [guard] at living
    exact ⟨owner, s, by rw [Function.update_of_ne differs, owns], guard, key⟩
  | @getIn task t staked held locks stakes =>
    rw [locks] at living
    rw [stakes]
    obtain ⟨owner, s, owns, facts⟩ := h g living
    by_cases same : owner = task
    · subst same
      rw [staked, Option.some.injEq] at owns
      subst owns
      exact ⟨owner, _, Function.update_self .., facts⟩
    · exact ⟨owner, s, by rw [Function.update_of_ne same, owns], facts⟩

theorem Owned.moves (h : b.Owned) (moves : Moves b b') : b'.Owned := by
  induction moves with
  | refl => exact h
  | tail _ move ih => exact ih.move move

end Broker

end Fanout
