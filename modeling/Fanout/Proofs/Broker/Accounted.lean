import Fanout.Proofs.Broker.Move
import Fanout.Proofs.Limit.Claims

namespace Fanout

open Fanout.Acquisition Fanout.Limits

def Opening.filing? (o : Opening) : Option (Nat × Nat) :=
  match o.state with
  | .acquiring _ _ a => a.filing?
  | _ => none

theorem Opening.filing?_of_guardless {o : Opening} (out : o.state.guard? = none) :
    o.filing? = none := by
  cases state : o.state <;> simp [Opening.filing?, OpenState.guard?, state] at out ⊢

namespace Broker

variable {b b' m : Broker} {i n ticket : Nat} {o : Opening} {state : OpenState}

/-- Every claim has been filed by an open that waits for it. -/
def Accounted (b : Broker) : Prop :=
  ∀ n ticket, Claimed b.limits n ticket → ∃ o ∈ b.openings, o.filing? = some (n, ticket)

namespace Accounted

theorem fresh (config : BrokerConfig) (caps : List (String × Nat)) :
    (Broker.new config (caps.map fun c => .new c.1 c.2)).Accounted :=
  fun _ _ claimed => absurd claimed (not_claimed_fresh caps)

theorem same (h : b.Accounted) (limits : b'.limits = b.limits)
    (openings : b'.openings = b.openings) : b'.Accounted := by
  unfold Accounted
  rw [limits, openings]
  exact h

theorem opening (h : b.Accounted) (here : b.openings[i]? = some o)
    (openings : m.openings = b.openings)
    (claims : ∀ n ticket, Claimed m.limits n ticket →
      Claimed b.limits n ticket ∧ o.filing? ≠ some (n, ticket) ∨
        ({ o with state := state } : Opening).filing? = some (n, ticket)) :
    (m.setOpening i state).Accounted := by
  intro n ticket claimed
  have here' : m.openings[i]? = some o := openings ▸ here
  rcases claims n ticket claimed with ⟨old, foreign⟩ | own
  · obtain ⟨x, member, files⟩ := h n ticket old
    obtain ⟨j, there⟩ := List.mem_iff_getElem?.mp member
    have differs : j ≠ i := by
      rintro rfl
      rw [here, Option.some.injEq] at there
      exact foreign (there ▸ files)
    have kept := (opening_other m state differs).trans (openings ▸ there)
    exact ⟨x, List.mem_of_getElem? kept, files⟩
  · exact ⟨_, List.mem_of_getElem? (getElem?_setOpening here' state), own⟩

theorem idle (h : b.Accounted) (here : b.openings[i]? = some o) (none : o.filing? = none)
    (openings : m.openings = b.openings) (limits : m.limits = b.limits) :
    (m.setOpening i state).Accounted := by
  refine h.opening here openings fun n ticket claimed => .inl ⟨limits ▸ claimed, ?_⟩
  rw [none]
  nofun

theorem outer (h : b.Accounted) (move : b.OuterMove b') : b'.Accounted := by
  cases move with
  | ask r =>
    intro n ticket claimed
    obtain ⟨o, member, files⟩ := h n ticket claimed
    exact ⟨o, List.mem_append_left _ member, files⟩
  | token | cancel | dropReader | sweep | shutDown => exact h.same rfl rfl
  | drop here out => exact h.idle here (Opening.filing?_of_guardless out) rfl rfl
  | @letGo i guard o here guarded =>
    have none : o.filing? = none := by
      rcases guarded with state | ⟨place, e, state⟩ <;> rw [Opening.filing?, state]
    exact h.idle (m := b.leave guard) here none rfl rfl
  | @giveUp i guard r place a g here changed =>
    exact h.opening
      (m := { b with limits := a.abandon b.limits, registry := g }.leave guard) here rfl
      fun n ticket claimed => .inl (claimed_of_abandon claimed)

theorem polled {a : Acquisition} {limits : Limits} {progress : Progress}
    (poll : a.poll b.limits b.now = (limits, progress)) (claimed : Claimed limits n ticket) :
    Claimed b.limits n ticket ∧ a.filing? ≠ some (n, ticket) ∨
      progress.filing? = some (n, ticket) := by
  have spec (claimed : Claimed (a.poll b.limits b.now).1 n ticket) := claimed_of_poll claimed
  rw [poll] at spec
  exact spec claimed

theorem denied {r : Request} {guard : Nat} {place : SinkPlace} {a : Acquisition} {limits : Limits}
    {error : OpenError} (denied : b.Denied a limits error) (claimed : Claimed limits n ticket) :
    Claimed b.limits n ticket ∧
      ({ request := r, state := .acquiring guard place a } : Opening).filing? ≠
        some (n, ticket) := by
  cases denied with
  | closed down given => exact claimed_of_abandon (given ▸ claimed)
  | capacity up poll => exact (polled poll claimed).resolve_right nofun

theorem openMove (h : b.Accounted) (move : b.OpenMove i b') : b'.Accounted := by
  cases move with
  | refuse error here => exact h.idle here rfl rfl rfl
  | queue here up => exact h.idle (m := { b with locks := _ }) here rfl rfl rfl
  | turnAway here => exact h.idle (m := b.leave _) here rfl rfl rfl
  | @arrive guard r pipe g place deadline here held up seated =>
    exact h.idle (m := { b with registry := g }) here rfl rfl rfl
  | @join guard r pipe g place here held up seated =>
    exact h.idle (m := { { b with registry := g }.leave guard with
      departures := b.departures ++ [{ key := r.key, place := place, token := r.token }] }) here rfl
      rfl rfl
  | @wait guard r place a rest limits here poll =>
    exact h.opening (m := { b with limits := limits }) here rfl fun n ticket => polled poll
  | @grant guard r place a limits held here up poll =>
    exact h.opening (m := { ({ b with limits := limits }.startPull r place.1 held).leave guard with
      departures := b.departures ++ [{ key := r.key, place := place, token := r.token }] }) here rfl
      fun n ticket claimed => .inl ((polled poll claimed).resolve_right nofun)
  | @deny guard r place a limits error g here refused changed =>
    exact h.opening (m := { b with limits := limits, registry := g }) here rfl
      fun n ticket claimed => .inl (denied refused claimed)
  | @denyGone guard r place a limits error g here refused gone changed =>
    exact h.opening (m := { b with limits := limits, registry := g }.leave guard) here rfl
      fun n ticket claimed => .inl (denied refused claimed)
  | @dispose guard r place error g here changed =>
    exact h.idle (m := { b with registry := g }.leave guard) here rfl rfl rfl

theorem pull (h : b.Accounted) (move : b.PullMove i b') : b'.Accounted := by
  cases move with
  | endFeed ending canceled here running changed =>
    intro n ticket claimed
    exact h n ticket claimed.of_releaseAll
  | queue | subscribe | close | finish | notice => exact h.same rfl rfl

theorem move (h : b.Accounted) (move : Move b b') : b'.Accounted := by
  cases move with
  | quiet same => exact h.same same.limits same.openings
  | outer move => exact h.outer move
  | opening move => exact h.openMove move
  | departure move => cases move <;> exact h.same rfl rfl
  | pull move => exact h.pull move
  | stop move => cases move <;> exact h.same rfl rfl

theorem moves (h : b.Accounted) (moves : Moves b b') : b'.Accounted := by
  induction moves with
  | refl => exact h
  | tail _ move ih => exact ih.move move

end Accounted

end Broker

end Fanout
