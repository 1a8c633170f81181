import Fanout.Relay.Basic

namespace Fanout

structure Registry where
  config : RelayConfig := {}
  /-- Every relay there ever was. -/
  relays : List Relay := []
  table : List (StreamKey × Nat) := []
deriving Inhabited

namespace Registry

def find? (g : Registry) (key : StreamKey) : Option Nat :=
  (g.table.find? (·.1 == key)).map (·.2)

def updateRelay (g : Registry) (i : Nat) (f : Relay → Relay) : Registry :=
  { g with relays := g.relays.modify i f }

/-- The relay under the key, which is made if there is none. Answers with its place and whether
it was made by this call. -/
def getOrCreate (g : Registry) (key : StreamKey) : Registry × Nat × Bool :=
  match g.find? key with
  | some i => (g, i, false)
  | none =>
    let i := g.relays.length
    ({ g with relays := g.relays ++ [Relay.new key g.config], table := g.table ++ [(key, i)] },
      i, true)

def erase (g : Registry) (key : StreamKey) : Registry :=
  { g with table := g.table.filter (·.1 != key) }

def remove (g : Registry) (key : StreamKey) : Registry × Option Nat :=
  match g.find? key with
  | some i => (g.erase key, some i)
  | none => (g, none)

/-- Takes the entry for the key out only if it still names the relay at `i`. -/
def removeIfSame (g : Registry) (key : StreamKey) (i : Nat) : Registry × Bool :=
  if g.find? key = some i then (g.erase key, true) else (g, false)

def retireEntry (g : Registry) (i : Nat) : Registry × Bool :=
  match g.relays[i]? with
  | some r => ({ g with relays := g.relays.set i r.retireIfEmpty.1 }, r.retireIfEmpty.2)
  | none => (g, false)

/-- Goes through the entries, keeping those whose relays stay open. -/
def evictFrom (g : Registry) : List (StreamKey × Nat) → Registry × List (StreamKey × Nat)
  | [] => (g, [])
  | entry :: rest =>
    let (g, closed) := g.retireEntry entry.2
    let (g, kept) := g.evictFrom rest
    (g, if closed then kept else entry :: kept)

/-- Retires and removes every relay without viewers. Answers how many it removed. -/
def evictEmpty (g : Registry) : Registry × Nat :=
  let (g', kept) := g.evictFrom g.table
  ({ g' with table := kept }, g.table.length - kept.length)

def beginClose (g : Registry) (i now : Nat) : Registry × List (Nat × Nat) :=
  match g.relays[i]? with
  | some r =>
    ({ g with relays := g.relays.set i (r.beginClose now).1 }, (r.beginClose now).2.map ((i, ·)))
  | none => (g, [])

def beginCloseAll (g : Registry) (now : Nat) : List Nat → Registry × List (Nat × Nat)
  | [] => (g, [])
  | i :: rest =>
    let (g, sinks) := g.beginClose i now
    let (g, others) := g.beginCloseAll now rest
    (g, sinks ++ others)

/-- Clears the table and begins to close every relay that was in it. -/
def stopAll (g : Registry) (now : Nat) : Registry × List (Nat × Nat) :=
  ({ g with table := [] } : Registry).beginCloseAll now (g.table.map (·.2))

def sink? (g : Registry) (place : Nat × Nat) : Option Sink :=
  g.relays[place.1]?.bind (·.sink? place.2)

def updateSink (g : Registry) (place : Nat × Nat) (f : Sink → Sink) : Registry :=
  g.updateRelay place.1 (·.updateSink place.2 f)

def closeEnded (g : Registry) (sinks : List (Nat × Nat)) : Bool :=
  sinks.all fun place => (g.sink? place).all (·.closeEnded)

def abandonClose (g : Registry) (sinks : List (Nat × Nat)) : Registry :=
  sinks.foldl (fun g place => g.updateSink place Sink.abandonClose) g

def keys (g : Registry) : List StreamKey := (g.table.map (·.1)).mergeSort (·.text ≤ ·.text)

def stats (g : Registry) : List RelayStats :=
  (g.table.filterMap fun entry => g.relays[entry.2]?.map (·.stats)).mergeSort
    (·.key.text ≤ ·.key.text)

end Registry

end Fanout
