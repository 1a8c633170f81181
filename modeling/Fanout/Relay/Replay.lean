import Fanout.Bytes

namespace Fanout

structure Replay where
  capacity : Nat
  /-- Grows up to the capacity and is then overwritten in place. -/
  store : Bytes := []
  head : Nat := 0
deriving DecidableEq, Inhabited

namespace Replay

def slice? (data : Bytes) (lo hi : Nat) : Option Bytes :=
  if lo ≤ hi ∧ hi ≤ data.length then some ((data.drop lo).take (hi - lo)) else none

def minus? (a b : Nat) : Option Nat := if b ≤ a then some (a - b) else none

def overwrite? (store : Bytes) (lo hi : Nat) (part : Bytes) : Option Bytes :=
  if lo ≤ hi ∧ hi ≤ store.length ∧ part.length = hi - lo then
    some (store.take lo ++ part ++ store.drop hi)
  else none

def size (r : Replay) : Nat := r.store.length

def isEmpty (r : Replay) : Bool := r.store.isEmpty

def isFull (r : Replay) : Bool := 0 < r.capacity && r.store.length == r.capacity

/-- Only the tail of a write larger than the ring can stay. -/
def tail? (r : Replay) (data : Bytes) : Option Bytes :=
  if r.capacity < data.length then do
    let lo ← minus? data.length r.capacity
    slice? data lo data.length
  else some data

/-- Writes over the oldest bytes of a full store, in up to two pieces. -/
def overwriteOldest? (r : Replay) (data : Bytes) : Option Replay := do
  let untilEnd ← minus? r.capacity r.head
  let n := min data.length untilEnd
  let first ← slice? data 0 n
  let store ← overwrite? r.store r.head (r.head + n) first
  let left ← minus? data.length n
  let second ← slice? data n data.length
  let store ← if 0 < left then overwrite? store 0 left second else some store
  pure { r with store := store, head := (r.head + data.length) % r.capacity }

/-- Appends up to the capacity and writes the rest over the oldest bytes. -/
def fill? (r : Replay) (data : Bytes) : Option Replay := do
  let room ← minus? r.capacity r.store.length
  let n := min room data.length
  let first ← slice? data 0 n
  let rest ← slice? data n data.length
  let filled := { r with store := r.store ++ first }
  if rest.isEmpty then pure filled else overwriteOldest? { filled with head := 0 } rest

def write? (r : Replay) (data : Bytes) : Option Replay :=
  if r.capacity = 0 ∨ data = [] then some r
  else do
    let data ← r.tail? data
    if r.isFull then r.overwriteOldest? data else r.fill? data

def snapshot? (r : Replay) : Option Bytes :=
  if r.isFull = false ∨ r.head = 0 then some r.store
  else do
    let old ← slice? r.store r.head r.store.length
    let new ← slice? r.store 0 r.head
    pure (old ++ new)

def write (r : Replay) (data : Bytes) : Replay := (r.write? data).getD r

def snapshot (r : Replay) : Bytes := r.snapshot?.getD []

end Replay

end Fanout
