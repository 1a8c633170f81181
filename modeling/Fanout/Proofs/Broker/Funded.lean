import Fanout.Proofs.Broker.Move
import Fanout.Proofs.Limit.Ledger

namespace Fanout

open Fanout.Units

def Opening.held (o : Opening) : List Units :=
  match o.state with
  | .acquiring _ _ a => a.held
  | _ => []

theorem Opening.held_of_guardless {o : Opening} (out : o.state.guard? = none) : o.held = [] := by
  cases state : o.state <;> simp [Opening.held, OpenState.guard?, state] at out ⊢

namespace Broker

variable {b b' : Broker} {i j : Nat} {before after between : List Units}

def held (b : Broker) : List Units := b.pulls.flatMap (·.held) ++ b.openings.flatMap Opening.held

/-- Units were traded between the broker and the limits, `before` for `after`. -/
structure Trade (b b' : Broker) (before after : List Units) : Prop where
  limits : Limits.Exchange b.limits b'.limits before after
  held : ∀ f n, tally f n b'.held + tally f n before = tally f n b.held + tally f n after

theorem held_setOpening {o : Opening} (here : b.openings[i]? = some o) (state : OpenState)
    (f : Units → Nat) (n : Nat) : tally f n (b.setOpening i state).held + tally f n o.held =
      tally f n b.held + tally f n ({ o with state := state } : Opening).held := by
  have swapped := sum_map_modify (f := fun o => { o with state := state }) here
    fun o => tally f n o.held
  simp only [held, setOpening, tally_append, tally_flatMap]
  omega

theorem held_updatePull {p : Pull} (here : b.pulls[i]? = some p) (g : Pull → Pull)
    (f : Units → Nat) (n : Nat) : tally f n (b.updatePull i g).held + tally f n p.held =
      tally f n b.held + tally f n (g p).held := by
  have swapped := sum_map_modify (f := g) here fun p => tally f n p.held
  simp only [held, updatePull, tally_append, tally_flatMap]
  omega

theorem held_startPull (b : Broker) (r : Request) (relay : Nat) (units : List Units)
    (f : Units → Nat) (n : Nat) :
    tally f n (b.startPull r relay units).held = tally f n b.held + tally f n units := by
  simp only [held, startPull, tally_append, List.flatMap_append, List.flatMap_singleton]
  omega

namespace Trade

variable {m : Broker} {o : Opening} {state : OpenState} {p : Pull} {g : Pull → Pull}

theorem none (limits : b'.limits = b.limits) (held : b'.held = b.held) : b.Trade b' [] [] :=
  ⟨limits ▸ .refl _ _, fun f n => by rw [held]⟩

theorem opening (here : m.openings[i]? = some o) (held : m.held = b.held)
    (exchange : Limits.Exchange b.limits m.limits o.held
      ({ o with state := state } : Opening).held) :
    b.Trade (m.setOpening i state) o.held ({ o with state := state } : Opening).held :=
  ⟨exchange, fun f n => held ▸ held_setOpening here state f n⟩

theorem pull (here : m.pulls[i]? = some p) (held : m.held = b.held)
    (exchange : Limits.Exchange b.limits m.limits p.held (g p).held) :
    b.Trade (m.updatePull i g) p.held (g p).held :=
  ⟨exchange, fun f n => held ▸ held_updatePull here g f n⟩

end Trade

structure Funded (b : Broker) : Prop where
  balanced : Limits.Balanced b.limits b.held
  acquiring : ∀ (i : Nat) r guard place a, b.openings[i]? = some ⟨r, .acquiring guard place a⟩ →
    a.held ++ a.wanted = r.units ∧ a.Filed b.limits

theorem Quiet.trade (same : b.Quiet b') : b.Trade b' [] [] := by
  refine .none same.limits ?_
  have outline (pulls : List Pull) :
      pulls.flatMap (·.held) = (pulls.map Pull.outline).flatMap (·.held) := by
    rw [List.flatMap_map]
    rfl
  rw [held, held, outline b.pulls, outline b'.pulls, same.pulls, same.openings]

theorem OuterMove.trade (move : b.OuterMove b') : ∃ before after, b.Trade b' before after := by
  cases move with
  | ask r =>
    refine ⟨[], [], .none rfl ?_⟩
    simp [held, Opening.held]
  | token | cancel | dropReader | sweep | shutDown => exact ⟨[], [], .none rfl rfl⟩
  | drop here out =>
    refine ⟨_, _, .opening here rfl ?_⟩
    rw [Opening.held_of_guardless out]
    exact .refl _ _
  | letGo here guarded =>
    refine ⟨_, _, .opening (m := b.leave _) here rfl ?_⟩
    rcases guarded with state | ⟨place, e, state⟩
    · rw [Opening.held, state]
      exact .refl _ _
    · rw [Opening.held, state]
      exact .refl _ _
  | giveUp here changed =>
    exact ⟨_, _, .opening (b := b) here rfl (Acquisition.abandon_exchange b.limits _)⟩

theorem Funded.poll (h : b.Funded) {r : Request} {guard : Nat} {place : SinkPlace} {a : Acquisition}
    {limits : Limits} {progress : Acquisition.Progress}
    (here : b.openings[i]? = some ⟨r, .acquiring guard place a⟩)
    (poll : a.poll b.limits b.now = (limits, progress)) :
    Limits.Exchange b.limits limits a.held progress.held ∧ progress.Fits limits r.units := by
  obtain ⟨units, filed⟩ := h.acquiring _ _ _ _ _ here
  have spec := Acquisition.poll_spec b.now h.balanced.sane filed
  rwa [poll, units] at spec

theorem Funded.denied (h : b.Funded) {r : Request} {guard : Nat} {place : SinkPlace}
    {a : Acquisition} {limits : Limits} {error : OpenError}
    (here : b.openings[i]? = some ⟨r, .acquiring guard place a⟩)
    (denied : b.Denied a limits error) : Limits.Exchange b.limits limits a.held [] := by
  cases denied with
  | closed down given => exact given ▸ a.abandon_exchange b.limits
  | capacity up poll => exact (h.poll here poll).1

theorem OpenMove.trade (move : b.OpenMove i b') (h : b.Funded) :
    ∃ before after, b.Trade b' before after := by
  cases move with
  | refuse error here | queue here up | turnAway here =>
    exact ⟨_, _, .opening (b := b) here rfl (.refl _ _)⟩
  | arrive deadline here held up seated => exact ⟨_, _, .opening (b := b) here rfl (.refl _ _)⟩
  | join here held up seated => exact ⟨_, _, .opening (b := b) here rfl (.refl _ _)⟩
  | wait here poll => exact ⟨_, _, .opening (b := b) here rfl (h.poll here poll).1⟩
  | deny here denied changed => exact ⟨_, _, .opening (b := b) here rfl (h.denied here denied)⟩
  | denyGone here denied gone changed =>
    exact ⟨_, _, .opening (b := b) here rfl (h.denied here denied)⟩
  | dispose here changed => exact ⟨_, _, .opening (b := b) here rfl (.refl _ _)⟩
  | @grant guard r place a limits held here up poll =>
    refine ⟨a.held, held, (h.poll here poll).1, fun f n => ?_⟩
    have opened := held_setOpening (b := { b with limits := limits }.startPull r place.1 held) here
      (.opened place b.departures.length) f n
    exact opened.trans (held_startPull { b with limits := limits } r place.1 held f n)

theorem DepartMove.trade (move : b.DepartMove i b') : b.Trade b' [] [] := by
  cases move <;> exact .none rfl rfl

theorem PullMove.trade (move : b.PullMove i b') : ∃ before after, b.Trade b' before after := by
  cases move with
  | queue here starting => exact ⟨_, _, .pull (b := b) here rfl (.refl _ _)⟩
  | subscribe here queued held old changed => exact ⟨_, _, .pull (b := b) here rfl (.refl _ _)⟩
  | endFeed ending canceled here running changed =>
    exact ⟨_, _, .pull (b := b) here rfl (Limits.releaseAll_exchange _ _)⟩
  | close sinks here leaving held changed => exact ⟨_, _, .pull (b := b) here rfl (.refl _ _)⟩
  | finish outcome here closing => exact ⟨_, _, .pull (b := b) here rfl (.refl _ _)⟩
  | notice here ready => exact ⟨_, _, .pull (b := b) here rfl (.refl _ _)⟩

theorem StopMove.trade (move : b.StopMove i b') : b.Trade b' [] [] := by
  cases move <;> exact .none rfl rfl

theorem Move.trade (move : Move b b') (h : b.Funded) : ∃ before after, b.Trade b' before after := by
  cases move with
  | quiet same => exact ⟨[], [], same.trade⟩
  | outer move => exact move.trade
  | opening move => exact move.trade h
  | departure move => exact ⟨[], [], move.trade⟩
  | pull move => exact move.trade
  | stop move => exact ⟨[], [], move.trade⟩

inductive Acquires (b b' : Broker) (j : Nat) (r : Request) (guard : Nat) (place : SinkPlace) :
    Acquisition → Prop
  | before {a : Acquisition} (old : b.openings[j]? = some ⟨r, .acquiring guard place a⟩) :
      Acquires b b' j r guard place a
  | seated (deadline : Option Nat) :
      Acquires b b' j r guard place { wanted := r.units, deadline := deadline }
  | polled {a rest : Acquisition} (old : b.openings[j]? = some ⟨r, .acquiring guard place a⟩)
      (poll : a.poll b.limits b.now = (b'.limits, .waiting rest)) :
      Acquires b b' j r guard place rest

theorem Move.acquires (move : Move b b') {r : Request} {guard : Nat} {place : SinkPlace}
    {a : Acquisition} (new : b'.openings[j]? = some ⟨r, .acquiring guard place a⟩) :
    b.Acquires b' j r guard place a := by
  cases move with
  | quiet same => exact .before (same.openings ▸ new)
  | outer move =>
    rcases move.openings new with old | same | same
    · exact .before old
    · cases same
    · cases same
  | opening move =>
    cases move with
    | arrive deadline here held up seated =>
      rcases openings_cases here new with ⟨-, rfl, same⟩ | ⟨-, old⟩
      · cases same
        exact .seated deadline
      · exact .before old
    | wait here poll =>
      rcases openings_cases here new with ⟨rfl, rfl, same⟩ | ⟨-, old⟩
      · cases same
        exact .polled here poll
      · exact .before old
    | refuse error here | queue here up | turnAway here | join here held up seated
    | grant here up poll | deny here denied changed | denyGone here denied gone changed
    | dispose here changed =>
      rcases openings_cases here new with ⟨-, -, same⟩ | ⟨-, old⟩
      · cases same
      · exact .before old
  | departure move => cases move <;> exact .before new
  | pull move => cases move <;> exact .before new
  | stop move => cases move <;> exact .before new

namespace Funded

theorem move (h : b.Funded) (move : Move b b') : b'.Funded := by
  obtain ⟨before, after, traded⟩ := move.trade h
  refine ⟨h.balanced.exchange traded.limits traded.held, fun j r guard place a new => ?_⟩
  cases move.acquires new with
  | before old =>
    obtain ⟨units, filed⟩ := h.acquiring _ _ _ _ _ old
    exact ⟨units, filed.kept h.balanced.sane traded.limits⟩
  | seated deadline => exact ⟨rfl, nofun⟩
  | polled old poll => exact (h.poll old poll).2

theorem moves (h : b.Funded) (moves : Moves b b') : b'.Funded := by
  induction moves with
  | refl => exact h
  | tail _ move ih => exact ih.move move

end Funded

end Broker

end Fanout
