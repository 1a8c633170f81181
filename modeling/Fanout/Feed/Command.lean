import Fanout.Feed.Child
import Fanout.Feed.Turn
import Fanout.Text.Blank

namespace Fanout

inductive Finding where
  | nothing
  | data (chunk : Bytes)
  | endOfOutput
  | readError (text : String)
  | exited (status : ExitStatus)
  | waitError (text : String)
deriving Inhabited

inductive CommandRun where
  | reading (total : Nat)
  | awaitingExit (total : Nat)
  | ended (result : FeedResult)
deriving Inhabited

namespace CommandRun

def exitText (program : String) (status : ExitStatus) : String :=
  program ++ " exited with " ++ status.text

structure Glance where
  run : CommandRun
  chunk : Bytes := []
  kills : Bool := false
deriving Inhabited

/-- One look at the cancellation and at what was found. An end before the child's own exit kills the
child. -/
def look (program : String) (canceled : Bool) (found : Finding) : CommandRun → Glance
  | .reading total =>
    if canceled then { run := .ended (.error .canceled), kills := true }
    else
      match found with
      | .data chunk => { run := .reading (total + chunk.length), chunk := chunk }
      | .endOfOutput => { run := .awaitingExit total }
      | .readError text => { run := .ended (.error (.io text)), kills := true }
      | _ => { run := .reading total }
  | .awaitingExit total =>
    if canceled then { run := .ended (.error .canceled), kills := true }
    else
      match found with
      | .exited status =>
        if status.isSuccess then { run := .ended (.ok total) }
        else { run := .ended (.error (.failed (exitText program status))) }
      | .waitError text => { run := .ended (.error (.io text)), kills := true }
      | _ => { run := .awaitingExit total }
  | .ended result => { run := .ended result }

end CommandRun

def replaceAll (old new : List Char) : List Char → List Char
  | [] => []
  | c :: rest =>
    if 0 < old.length ∧ old.isPrefixOf (c :: rest) then
      new ++ replaceAll old new (rest.drop (old.length - 1))
    else c :: replaceAll old new rest
termination_by text => text.length
decreasing_by all_goals (simp only [List.length_cons, List.length_drop]; omega)

def readSize : Nat := 188 * 256

structure Command where
  argv : List String
  child : Option Child := none
  run : CommandRun := .reading 0
  begun : Bool := false
  pausedUntil : Option Nat := none
deriving Inhabited

namespace Command

def ofArgs (argv : List String) : Option Command :=
  match argv with
  | [] => none
  | program :: _ => if Text.isBlankText program then none else some { argv := argv }

def placeholder : List Char := ['\x7b', 'u', 'r', 'l', '\x7d']

def fillIn (address argument : String) : String :=
  String.ofList (replaceAll placeholder address.toList argument.toList)

def ofTemplate (template : List String) (address : String) : Option Command :=
  ofArgs (template.map (fillIn address))

def label (c : Command) : String := " ".intercalate c.argv

def program (c : Command) : String := c.argv.headD ""

/-- What the next wait finds, and the child after it. A pause is left in its place until the
clock has passed it. -/
def find (c : Command) (now : Nat) : Finding × Command :=
  match c.child with
  | none => (.nothing, c)
  | some child =>
    match child.happenings with
    | .output data :: rest =>
      match c.run with
      | .reading _ =>
        if data.length ≤ readSize then
          (.data data, { c with child := some { child with happenings := rest } })
        else
          (.data (data.take readSize),
            { c with
              child := some { child with happenings := .output (data.drop readSize) :: rest } })
      | _ => (.nothing, { c with child := some { child with happenings := rest } })
    | .pause ms :: rest =>
      match c.pausedUntil with
      | none => (.nothing, { c with pausedUntil := some (now + ms) })
      | some t =>
        if t ≤ now then
          (.nothing,
            { c with pausedUntil := none, child := some { child with happenings := rest } })
        else (.nothing, c)
    | .closeOutput :: rest =>
      match c.run with
      | .reading _ => (.endOfOutput, { c with child := some { child with happenings := rest } })
      | _ => (.nothing, { c with child := some { child with happenings := rest } })
    | .breakOutput text :: rest =>
      match c.run with
      | .reading _ => (.readError text, { c with child := some { child with happenings := rest } })
      | _ => (.nothing, { c with child := some { child with happenings := rest } })
    | [] =>
      match c.run with
      | .reading _ => (.endOfOutput, c)
      | _ =>
        match child.exit with
        | .ok status => (.exited status, c)
        | .error text => (.waitError text, c)

def isPaused (c : Command) (now : Nat) : Bool := c.pausedUntil.any (now < ·)

def isEnded (c : Command) : Bool :=
  match c.run with
  | .ended _ => true
  | _ => false

def glance (now : Nat) (canceled : Bool) (c : Command) : Command × Bytes :=
  let (found, c) := if canceled then (.nothing, c) else c.find now
  let seen := c.run.look c.program canceled found
  ({ c with
      run := seen.run
      child := if seen.kills then c.child.map Child.kill else c.child },
    seen.chunk)

def forward (now : Nat) (canceled : Bool) : Nat → Command → List Bytes → Command × Turn
  | 0, c, written => (c, { writes := written })
  | fuel + 1, c, written =>
    match c.run with
    | .ended result => (c, ⟨written, some (.returned result)⟩)
    | _ =>
      if c.isPaused now && !canceled then (c, { writes := written })
      else
        let (c, chunk) := c.glance now canceled
        forward now canceled fuel c (if chunk.isEmpty then written else written ++ [chunk])

def looks (c : Command) : Nat :=
  (c.child.elim 0 fun child => sum (child.happenings.map fun h =>
    match h with
    | .output data => data.length / readSize + 1
    | _ => 2)) + 4

def resume (start : List String → Except String Child) (c : Command) (canceled : Bool)
    (now : Nat) : Command × Turn :=
  if c.begun then c.forward now canceled c.looks []
  else
    match start c.argv with
    | .error text =>
      ({ c with begun := true },
        { ending := some (.returned (.error (.spawn (c.program ++ ": " ++ text)))) })
    | .ok child =>
      let c := { c with begun := true, child := some child }
      c.forward now canceled c.looks []

def ready (c : Command) (canceled : Bool) (now : Nat) : Bool :=
  !c.begun || canceled || (c.child.isSome && !c.isPaused now)

def alarm (c : Command) : Option Nat := c.pausedUntil

end Command

end Fanout
