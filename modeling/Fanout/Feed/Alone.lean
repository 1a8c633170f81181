import Fanout.Feed.Basic
import Fanout.Feed.Shell

namespace Fanout

def Environment.offline : Environment :=
  { start := Shell.spawn, send := fun _ _ => { answer := .error "builder error" } }

namespace Feed

/-- Resumes the feed until it ends, at most `fuel` times, with a clock that jumps over its pauses. It
is canceled as soon as it has written `cancelAfter` bytes. There is no result if it never ends. -/
def runFor (cancelAfter : Option Nat) :
    Nat → (now : Nat) → (canceled : Bool) → Bytes → Feed → Bytes × Option Ending
  | 0, _, _, written, _ => (written, none)
  | fuel + 1, now, canceled, written, feed =>
    let (feed, turn) := feed.resume canceled now
    let written := written ++ turn.writes.flatten
    match turn.ending with
    | some ending => (written, some ending)
    | none =>
      let canceled := canceled || cancelAfter.any (· ≤ written.length)
      let now := if canceled then now else feed.alarm.elim now (max now)
      runFor cancelAfter fuel now canceled written feed

def patience : Nat := 1000000

def runAlone (feed : Feed) (canceledBefore : Bool) (cancelAfter : Option Nat) :
    Bytes × Option Ending :=
  runFor cancelAfter patience 0 canceledBefore [] feed

end Feed

end Fanout
