import Fanout.Stream.Key

namespace Fanout

structure Guard where
  id : Nat
  key : StreamKey
  gate : Nat
deriving DecidableEq, Inhabited

structure KeyLocks where
  map : List (StreamKey × Nat) := []
  guards : List Guard := []
  nextGate : Nat := 0
  nextGuard : Nat := 0
deriving Inhabited

namespace KeyLocks

def gate? (k : KeyLocks) (key : StreamKey) : Option Nat :=
  (k.map.find? (·.1 == key)).map (·.2)

def guard? (k : KeyLocks) (id : Nat) : Option Guard := k.guards.find? (·.id == id)

def gateFor (k : KeyLocks) (key : StreamKey) : KeyLocks × Nat :=
  match k.gate? key with
  | some gate => (k, gate)
  | none =>
    ({ k with map := k.map ++ [(key, k.nextGate)], nextGate := k.nextGate + 1 }, k.nextGate)

def enter (k : KeyLocks) (key : StreamKey) : KeyLocks × Nat :=
  let (k, gate) := k.gateFor key
  ({ k with guards := k.guards ++ [⟨k.nextGuard, key, gate⟩], nextGuard := k.nextGuard + 1 },
    k.nextGuard)

def holds (k : KeyLocks) (id : Nat) : Bool :=
  match k.guard? id with
  | some g => (k.guards.find? (·.gate == g.gate)).any (·.id == id)
  | none => false

/-- The references to a gate: one by the map, and two by each guard, which refers to it for itself
and through the lock it has or waits for. -/
def references (k : KeyLocks) (gate : Nat) : Nat :=
  (k.map.countP (·.2 == gate)) + 2 * (k.guards.countP (·.gate == gate))

/-- Lets go of a guard, whether it has the lock or waits for it. Once the lock itself is given up
one reference of the guard is left; if the map has the only other one, the entry goes. -/
def leave (k : KeyLocks) (id : Nat) : KeyLocks :=
  match k.guard? id with
  | none => k
  | some g =>
    let rest := { k with guards := k.guards.filter (·.id != id) }
    if rest.references g.gate + 1 = 2 ∧ rest.gate? g.key = some g.gate then
      { rest with map := rest.map.filter (·.1 != g.key) }
    else rest

end KeyLocks

end Fanout
