import Fanout.Text.Quoted

namespace Fanout

inductive LimitError where
  | weightTooLarge (weight capacity : Nat)
  | exhausted
deriving DecidableEq, Inhabited

def LimitError.message : LimitError → String
  | .weightTooLarge weight capacity =>
    "Weight " ++ toString weight ++ " exceeds limit capacity " ++ toString capacity
  | .exhausted => "No permits available"

/-- An acquisition that waits, or is complete and not yet collected. -/
structure Claim where
  ticket : Nat
  weight : Nat
  missing : Nat
deriving DecidableEq, Inhabited

structure Limit where
  name : String
  capacity : Nat
  available : Nat
  claims : List Claim := []
  nextTicket : Nat := 0
  acquired : Nat := 0
  released : Nat := 0
deriving DecidableEq, Inhabited

namespace Limit

def new (name : String) (capacity : Nat) : Limit :=
  { name := name, capacity := capacity, available := capacity }

def grant (l : Limit) (weight : Nat) : Limit :=
  { l with available := l.available - weight, acquired := l.acquired + 1 }

def tryAcquire (l : Limit) (weight : Nat) : Except LimitError Limit :=
  if l.capacity < weight then .error (.weightTooLarge weight l.capacity)
  else if weight ≤ l.available then .ok (l.grant weight)
  else .error .exhausted

/-- Takes units, or leaves a claim for them and answers with its ticket. -/
def request (l : Limit) (weight : Nat) : Except LimitError (Limit × Option Nat) :=
  if l.capacity < weight then .error (.weightTooLarge weight l.capacity)
  else if weight ≤ l.available then .ok (l.grant weight, none)
  else
    .ok ({ l with
        available := 0
        claims := l.claims ++ [⟨l.nextTicket, weight, weight - l.available⟩]
        nextTicket := l.nextTicket + 1 },
      some l.nextTicket)

/-- Hands `units` to the claims in order, and answers with what is left. -/
def distribute (units : Nat) : List Claim → List Claim × Nat
  | [] => ([], units)
  | claim :: rest =>
    let given := min units claim.missing
    let (rest, left) := distribute (units - given) rest
    ({ claim with missing := claim.missing - given } :: rest, left)

def give (l : Limit) (units : Nat) : Limit :=
  { l with
    claims := (distribute units l.claims).1
    available := l.available + (distribute units l.claims).2 }

def claim? (l : Limit) (ticket : Nat) : Option Claim := l.claims.find? (·.ticket == ticket)

def isComplete (l : Limit) (ticket : Nat) : Bool :=
  (l.claim? ticket).any (·.missing == 0)

def eraseClaim (l : Limit) (ticket : Nat) : Limit :=
  { l with claims := l.claims.filter (·.ticket != ticket) }

/-- Turns a complete claim into units held. -/
def collect (l : Limit) (ticket : Nat) : Limit :=
  { l.eraseClaim ticket with acquired := l.acquired + 1 }

/-- Gives up a claim, and what it had goes back. -/
def withdraw (l : Limit) (ticket : Nat) : Limit :=
  match l.claim? ticket with
  | some claim => (l.eraseClaim ticket).give (claim.weight - claim.missing)
  | none => l

def release (l : Limit) (weight : Nat) : Limit :=
  ({ l with released := l.released + 1 } : Limit).give weight

def describe (l : Limit) : String :=
  "ConcurrencyLimit \x7b name: " ++ Text.quoted l.name ++ ", capacity: " ++ toString l.capacity ++
    ", available: " ++ toString l.available ++ " \x7d"

end Limit

end Fanout
