import Fanout.Proofs.Broker.Canceled
import Fanout.Proofs.Limit.Balance

namespace Fanout

open Fanout.Units

theorem Pull.Fits.closedIffEmpty {p : Pull} {s : Roster} (h : p.Fits s) (going : p.returned = false) :
    s.ClosedIffEmpty := by
  obtain ⟨-, fits⟩ := h
  cases matched : p.state with
  | starting | queued guard =>
    rw [matched] at fits
    exact fits.2.2.2
  | running =>
    rw [matched] at fits
    exact fits.2.2.1
  | leaving guard ending canceled | closing sinks ending canceled | ended outcome =>
    rw [Pull.returned, matched] at going
    cases going

namespace Broker

variable {b : Broker} {i j guard : Nat} {r : Request} {place : SinkPlace} {a : Acquisition}
  {p : Pull}

/-- While an open waits for units, a pull of its key whose feed goes on serves nobody. -/
theorem Sound.deserted_of_acquiring (h : b.Sound) (up : b.shutdown = false)
    (here : b.openings[i]? = some ⟨r, .acquiring guard place a⟩) (there : b.pulls[j]? = some p)
    (key : p.key = r.key) (going : p.returned = false) : b.Deserted p.relay := by
  obtain ⟨t, old, fits⟩ := h.pullsFit.fits j p there
  have line : (r.key, p.relay) ∈ b.pulls.map Pull.line :=
    key ▸ List.mem_map_of_mem (List.mem_of_getElem? there)
  have closed := h.closed_of_acquiring up here line old
  exact deserted_iff.mpr ⟨t, old, closed, (fits.closedIffEmpty going).mp closed⟩

theorem deserted_of_waiting (config : BrokerConfig) (limits : Limits) (events : List Event)
    (up : ((Broker.new config limits).after events).shutdown = false)
    (here : ((Broker.new config limits).after events).openings[i]? =
      some ⟨r, .acquiring guard place a⟩)
    (there : ((Broker.new config limits).after events).pulls[j]? = some p)
    (key : p.key = r.key) (going : p.returned = false) :
    ((Broker.new config limits).after events).Deserted p.relay :=
  (sound_after config limits events).deserted_of_acquiring up here there key going

def awaitsLock (b : Broker) (p : Pull) : Bool :=
  match p.state with
  | .queued guard | .leaving guard _ _ => !b.locks.holds guard
  | _ => false

def parked (b : Broker) (key : StreamKey) (n : Nat) : Nat :=
  ((b.pulls.filter fun p => p.key = key && b.awaitsLock p).map fun p => weightAt n p.held).sum

/-- The open has the lock of its key and waits for a unit of a limit all of whose units are held by
pulls that wait for this lock. -/
def entangled (b : Broker) (i : Nat) : Bool :=
  match b.openings[i]? with
  | some ⟨r, .acquiring guard _ a⟩ =>
    match a.ticket, a.wanted with
    | some _, u :: _ =>
      b.locks.holds guard && !a.complete b.limits &&
        b.limits[u.limit]?.any fun l => 0 < l.capacity && b.parked r.key u.limit = l.capacity
    | _, _ => false
  | _ => false

/-- A stop and a second open queue up behind an open that waits for the unit of another key. The
unit comes, the pull of the first open lines up behind both, the stop takes its relay away, and the
second open waits for the unit that this pull has. -/
def crossing : List Event :=
  [.request { key := ⟨"h"⟩, feed := .plain {}, limits := [0], token := 0 }, .run (.opening 0),
    .run (.pull 0),
    .request { key := ⟨"k"⟩, feed := .plain {}, limits := [0], token := 0 }, .run (.opening 1),
    .stop ⟨"k"⟩, .run (.stop 0),
    .request { key := ⟨"k"⟩, feed := .plain {}, limits := [0], token := 0 }, .run (.opening 2),
    .turn 0 { ending := some (.returned (.ok 0)) }, .run (.opening 1), .run (.pull 1),
    .run (.stop 0), .run (.opening 2)]

def giveIn : List Event :=
  [.tick 5000, .run (.opening 2), .run (.delivery (2, 1)), .run (.closer (2, 1)), .run (.opening 2)]

/-- An open and the pull that it keeps from giving a unit back wait for each other, until the time of
the open is over and it is refused for want of this unit. -/
theorem entangled_after_crossing :
    ((Broker.new {} [.new "g" 1]).after crossing).entangled 2 = true ∧
      ((Broker.new {} [.new "g" 1]).after (crossing ++ giveIn)).capacityRejections = 1 ∧
      ((Broker.new {} [.new "g" 1]).after (crossing ++ giveIn)).pulls.map
        (fun p => weightAt 0 p.held) = [0, 1] := by decide

/-- The pull that is waited for serves nobody. -/
theorem deserted_after_crossing :
    ((Broker.new {} [.new "g" 1]).after crossing).shutdown = false ∧ ∃ r guard place a p,
      ((Broker.new {} [.new "g" 1]).after crossing).openings[2]? =
          some ⟨r, .acquiring guard place a⟩ ∧
        ((Broker.new {} [.new "g" 1]).after crossing).pulls[1]? = some p ∧ p.key = r.key ∧
        p.returned = false ∧
        ((Broker.new {} [.new "g" 1]).after crossing).Deserted p.relay := by
  have up : ((Broker.new {} [.new "g" 1]).after crossing).shutdown = false := by decide
  have here : ((Broker.new {} [.new "g" 1]).after crossing).openings[2]? =
      some ⟨{ key := ⟨"k"⟩, feed := .plain {}, limits := [0], token := 0 },
        .acquiring 4 (2, 1)
          { wanted := [⟨0, 1⟩], ticket := some 1, deadline := some 5000 }⟩ := rfl
  have there : ((Broker.new {} [.new "g" 1]).after crossing).pulls[1]? =
      some { key := ⟨"k"⟩, relay := 1, feed := .plain {}, held := [⟨0, 1⟩], state := .queued 6 } :=
    rfl
  exact ⟨up, _, _, _, _, _, here, there, rfl, rfl,
    deserted_of_waiting _ _ _ up here there rfl rfl⟩

end Broker

end Fanout
