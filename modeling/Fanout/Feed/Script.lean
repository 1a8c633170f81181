import Fanout.Feed.Turn

namespace Fanout

inductive ScriptResult where
  | total
  | fixed (result : FeedResult)
deriving Inhabited

inductive OnCancel where
  | stop
  /-- Goes on, and never looks at the cancellation again. -/
  | ignore
  | finish (result : ScriptResult)
deriving Inhabited

inductive ScriptCommand where
  | produce (chunks : List Bytes)
  | finish (result : ScriptResult)
  | panic
deriving Inhabited

structure Script where
  name : String := ""
  label : String := "scripted"
  chunks : List Bytes := []
  panics : Bool := false
  atOnce : Option ScriptResult := none
  cancelChunks : List Bytes := []
  onCancel : OnCancel := .stop
  begun : Bool := false
  active : Bool := false
  sawCancel : Bool := false
  total : Nat := 0
  commands : List ScriptCommand := []
deriving Inhabited

namespace Script

def resolve (s : Script) : ScriptResult → FeedResult
  | .total => .ok s.total
  | .fixed result => result

def produce (s : Script) (chunks : List Bytes) : Script :=
  { s with total := s.total + sum (chunks.map List.length) }

def follow (s : Script) (written : List Bytes) : List ScriptCommand → Script × Turn
  | [] => ({ s with commands := [] }, { writes := written })
  | .produce chunks :: rest => (s.produce chunks).follow (written ++ chunks) rest
  | .finish result :: rest =>
    ({ s with commands := rest, active := false }, ⟨written, some (.returned (s.resolve result))⟩)
  | .panic :: rest => ({ s with commands := rest, active := false }, ⟨written, some .panicked⟩)

/-- Looks at the cancellation, unless it was seen before, and then at the commands. -/
def look (s : Script) (canceled : Bool) (written : List Bytes) : Script × Turn :=
  if canceled && !s.sawCancel then
    let s := { s.produce s.cancelChunks with sawCancel := true }
    let written := written ++ s.cancelChunks
    match s.onCancel with
    | .stop => ({ s with active := false }, ⟨written, some (.returned (.error .canceled))⟩)
    | .ignore => s.follow written s.commands
    | .finish result =>
      ({ s with active := false }, ⟨written, some (.returned (s.resolve result))⟩)
  else s.follow written s.commands

def resume (s : Script) (canceled : Bool) : Script × Turn :=
  if s.begun then s.look canceled []
  else
    let s := { s.produce s.chunks with begun := true, active := true }
    if s.panics then ({ s with active := false }, ⟨s.chunks, some .panicked⟩)
    else
      match s.atOnce with
      | some result =>
        ({ s with active := false }, ⟨s.chunks, some (.returned (s.resolve result))⟩)
      | none => s.look canceled s.chunks

def ready (s : Script) (canceled : Bool) : Bool :=
  !s.begun || (canceled && !s.sawCancel) || !s.commands.isEmpty

def send (s : Script) (command : ScriptCommand) : Script :=
  { s with commands := s.commands ++ [command] }

end Script

end Fanout
