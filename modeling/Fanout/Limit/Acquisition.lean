import Fanout.Limit.Basic

namespace Fanout

abbrev Limits := List Limit

structure Units where
  limit : Nat
  weight : Nat
deriving DecidableEq, Inhabited

structure Acquisition where
  wanted : List Units
  held : List Units := []
  /-- The claim that waits for the first of `wanted`. -/
  ticket : Option Nat := none
  deadline : Option Nat := none
deriving DecidableEq, Inhabited

namespace Limits

def update (limits : Limits) (i : Nat) (f : Limit → Limit) : Limits := limits.modify i f

def releaseAll (limits : Limits) (held : List Units) : Limits :=
  held.foldl (fun limits u => update limits u.limit (·.release u.weight)) limits

end Limits

namespace Acquisition

inductive Progress where
  | waiting (rest : Acquisition)
  | granted (held : List Units)
  | refused (error : LimitError)
deriving Inhabited

/-- Gives back everything that the acquisition has so far. -/
def abandon (limits : Limits) (a : Acquisition) : Limits :=
  let limits :=
    match a.ticket, a.wanted with
    | some ticket, u :: _ => Limits.update limits u.limit (·.withdraw ticket)
    | _, _ => limits
  Limits.releaseAll limits a.held

/-- Acquires as far as it goes without waiting. -/
def advance (limits : Limits) (held : List Units) (deadline : Option Nat) :
    List Units → Limits × Progress
  | [] => (limits, .granted held)
  | u :: rest =>
    match limits[u.limit]? with
    | none => (Limits.releaseAll limits held, .refused .exhausted)
    | some l =>
      match l.request u.weight with
      | .error e => (Limits.releaseAll limits held, .refused e)
      | .ok (l, none) => advance (limits.set u.limit l) (held ++ [u]) deadline rest
      | .ok (l, some ticket) =>
        (limits.set u.limit l, .waiting ⟨u :: rest, held, some ticket, deadline⟩)

def complete (limits : Limits) (a : Acquisition) : Bool :=
  match a.ticket, a.wanted with
  | some ticket, u :: _ => limits[u.limit]?.any (·.isComplete ticket)
  | _, _ => true

def expired (a : Acquisition) (now : Nat) : Bool := a.deadline.any (· ≤ now)

/-- Something can be done: the claim is complete or the time is over. -/
def ready (limits : Limits) (a : Acquisition) (now : Nat) : Bool :=
  a.complete limits || a.expired now

/-- Collects a complete claim and goes on; only what still has to wait can run out of time. -/
def poll (limits : Limits) (a : Acquisition) (now : Nat) : Limits × Progress :=
  let (limits, progress) :=
    match a.ticket, a.wanted with
    | some ticket, u :: rest =>
      if a.complete limits then
        advance (Limits.update limits u.limit (·.collect ticket)) (a.held ++ [u]) a.deadline rest
      else (limits, .waiting a)
    | _, _ => advance limits a.held a.deadline a.wanted
  match progress with
  | .waiting a => if a.expired now then (a.abandon limits, .refused .exhausted)
    else (limits, .waiting a)
  | _ => (limits, progress)

end Acquisition

end Fanout
