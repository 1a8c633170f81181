import Fanout.Feed.Command
import Fanout.Feed.Fetch
import Fanout.Feed.Script

namespace Fanout

structure Environment where
  start : List String → Except String Child
  send : (address : String) → (userAgent : Option String) → HttpExchange
deriving Inhabited

inductive Feed where
  | script (s : Script)
  | plain (s : Script)
  | command (env : Environment) (c : Command)
  | fetch (env : Environment) (f : Fetch)
deriving Inhabited

namespace Feed

def label : Feed → String
  | .script s => s.label
  | .plain _ => "streamer"
  | .command _ c => c.label
  | .fetch _ f => f.label

/-- A feed is resumed whenever it is ready, and answers with its turn. -/
def resume (canceled : Bool) (now : Nat) : Feed → Feed × Turn
  | .script s => ((s.resume canceled).1 |> .script, (s.resume canceled).2)
  | .plain s => ((s.resume canceled).1 |> .plain, (s.resume canceled).2)
  | .command env c =>
    let (c, turn) := c.resume env.start canceled now
    (.command env c, turn)
  | .fetch env f =>
    let (f, turn) := f.resume env.send canceled now
    (.fetch env f, turn)

def ready (canceled : Bool) (now : Nat) : Feed → Bool
  | .script s | .plain s => s.ready canceled
  | .command _ c => c.ready canceled now
  | .fetch _ f => f.ready canceled now

def alarm : Feed → Option Nat
  | .command _ c => c.alarm
  | .fetch _ f => f.alarm
  | _ => none

end Feed

end Fanout
