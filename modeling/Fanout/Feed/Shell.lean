import Fanout.Feed.Shell.Program
import Fanout.Feed.Shell.Script
import Fanout.Feed.Shell.Term

namespace Fanout.Shell

inductive Stream where
  | pipe
  | elsewhere
  | closed
deriving DecidableEq, Inhabited

inductive Flow where
  | next
  | leavesLoop
  | nextRound
  | ends
deriving DecidableEq, Inhabited

structure State where
  happenings : List Happening := []
  later : List Happening := []
  status : ExitStatus := .code 0
  flow : Flow := .next
  input : Bytes := []
  output : Stream := .pipe
  errors : Stream := .elsewhere
  bindings : List (List Char × String) := []
  arguments : List String := ["sh"]
  traps : List (String × String) := []
  isInner : Bool := false
deriving Inhabited

namespace State

def exitCode (s : State) : Nat :=
  match s.status with
  | .code n => n
  | .signal n _ => 128 + n

def exit (s : State) (code : Nat) : State := { s with status := .code code }

def assign (s : State) (name : List Char) (value : String) : State :=
  { s with bindings := (name, value) :: s.bindings }

/-- What a program did has happened to the shell, as far as its output leads there. -/
def add (s : State) (run : Run) : State :=
  let kept := run.happenings.filter fun h =>
    match h with
    | .output _ => s.output == .pipe
    | _ => true
  let isLost := s.output == .closed && !(written run.happenings).isEmpty
  { s with
    happenings := kept.reverse ++ s.happenings
    status := if isLost then .code 1 else run.status }

def addInner (s inner : State) : State :=
  { s with
    happenings := inner.happenings
    later := inner.later
    status := .code inner.exitCode }

def holdsOutput (s : State) : Bool := s.output == .pipe || s.errors == .pipe

def redirectTo (s t : State) : State :=
  { t with
    happenings :=
      if s.holdsOutput && !t.holdsOutput && !s.isInner then .closeOutput :: t.happenings
      else t.happenings }

def processNumber : String := "4242"

def value (s : State) (name : List Char) : String :=
  match String.ofList name with
  | "?" => toString s.exitCode
  | "$" => processNumber
  | "#" => toString (s.arguments.length - 1)
  | "@" | "*" => " ".intercalate s.arguments.tail
  | "!" | "-" => ""
  | text =>
    match text.toNat? with
    | some n => (s.arguments[n]?).getD ""
    | none => (s.bindings.lookup name).getD ""

end State

def fragments : List Char → List (List Char)
  | [] => [[]]
  | c :: rest =>
    if c = ' ' ∨ c = '\t' ∨ c = '\n' then [] :: fragments rest
    else
      match fragments rest with
      | first :: others => (c :: first) :: others
      | [] => [[c]]

/-- A field of an expanded word. One without quotes is dropped if it stays empty. -/
structure Field where
  text : List Char := []
  isQuoted : Bool := false
deriving Inhabited

def extend (isQuoted : Bool) : (parts : List (List Char)) → List Field → List Field
  | [], fields => fields
  | part :: others, fields =>
    let field := fields.headD {}
    others.foldl (fun fields part => ⟨part, isQuoted⟩ :: fields)
      (⟨field.text ++ part, field.isQuoted || isQuoted⟩ :: fields.tail)

def texts (fields : List Field) : List String :=
  (fields.reverse.filter fun f => f.isQuoted || !f.text.isEmpty).map fun f => String.ofList f.text

def assignment? : Word → Option (List Char × Word)
  | .plain ['='] :: value => some ([], value)
  | .plain [c] :: rest =>
    if Script.isNameChar c then (assignment? rest).map fun p => (c :: p.1, p.2) else none
  | _ => none

def leadingAssignments : List Word → List (List Char × Word) × List Word
  | [] => ([], [])
  | w :: rest =>
    match assignment? w with
    | some (c :: name, value) =>
      if c.isDigit then ([], w :: rest)
      else
        let (others, rest) := leadingAssignments rest
        ((c :: name, value) :: others, rest)
    | _ => ([], w :: rest)

def signal? (text : String) : Option Nat :=
  match text.toNat? with
  | some n => some n
  | none =>
    (ExitStatus.signalNames.findIdx? (· == String.ofList (text.toList.map Char.toUpper))).map
      (· + 1)

def harmless : List Nat := [0, 17, 18, 23, 28]

def halting : List Nat := [19, 20, 21, 22]

def ever : Nat := 1000000000

def isWritable (path : String) : Bool :=
  match path.splitOn "/" with
  | [name] => !name.isEmpty
  | ["", "dev", name] => ["null", "zero", "stdout", "stderr"].contains name
  | ["", "tmp", name] => !name.isEmpty
  | _ => false

def programName (path : String) : String :=
  match path.splitOn "/" with
  | ["", "bin", name] | ["", "usr", "bin", name] => name
  | _ => path

def isExec : Script → Bool
  | .simple (w :: _) => w == "exec".toList.map fun c => .plain [c]
  | _ => false

mutual

def expandPiece (fuel : Nat) (s : State) (piece : Piece) : State × List (List Char) × Bool :=
  match fuel with
  | 0 => (s, [], false)
  | fuel + 1 =>
    let parts (text : String) (isQuoted : Bool) :=
      if isQuoted then [text.toList] else fragments text.toList
    match piece with
    | .plain text => (s, [text], false)
    | .quoted text => (s, [text], true)
    | .parameter ['@'] true => (s, s.arguments.tail.map String.toList, true)
    | .parameter name isQuoted =>
      let value := s.value (name.takeWhile (· != ':'))
      let value :=
        match name.dropWhile (· != ':') with
        | ':' :: '-' :: default => if value.isEmpty then String.ofList default else value
        | _ => value
      (s, parts value isQuoted, isQuoted)
    | .output script isQuoted =>
      let inner := runText fuel (String.ofList script)
        { s with happenings := [], output := .pipe, errors := .elsewhere, isInner := true }
      let (outputs, others) := inner.happenings.partition fun h =>
        match h with
        | .output _ => true
        | _ => false
      let text := (String.fromUTF8? ⟨(written outputs.reverse).toArray⟩).getD ""
      let text := String.ofList (text.toList.reverse.dropWhile (· == '\n')).reverse
      ({ s with happenings := others ++ s.happenings, status := .code inner.exitCode },
        parts text isQuoted, isQuoted)
    | .value term =>
      match valueOfTerm? (fun name => (number (s.value name)).1) term with
      | some n => (s, [(toString n).toList], false)
      | none => ({ s.exit 2 with flow := .ends }, [], false)

def expandWord (fuel : Nat) (s : State) : Word → List Field → State × List Field
  | [], fields => (s, fields)
  | piece :: rest, fields =>
    match fuel with
    | 0 => (s, fields)
    | fuel + 1 =>
      let (s, parts, isQuoted) := expandPiece fuel s piece
      expandWord fuel s rest (extend isQuoted parts fields)

def expandWords (fuel : Nat) (s : State) : List Word → State × List String
  | [] => (s, [])
  | w :: rest =>
    match fuel with
    | 0 => (s, [])
    | fuel + 1 =>
      let (s, fields) := expandWord fuel s w []
      let (s, others) := expandWords fuel s rest
      (s, texts fields ++ others)

def assignAll (fuel : Nat) (s : State) : List (List Char × Word) → State
  | [] => s
  | (name, value) :: rest =>
    match fuel with
    | 0 => s
    | fuel + 1 =>
      let (s, fields) := expandWord fuel s value []
      assignAll fuel (s.assign name (" ".intercalate (texts fields))) rest

def redirect (fuel : Nat) (s : State) : List Redirection → Option State
  | [] => some s
  | r :: rest =>
    match fuel with
    | 0 => none
    | fuel + 1 =>
      let lead (stream : Stream) : State :=
        match r.stream with
        | 1 => { s with output := stream }
        | 2 => { s with errors := stream }
        | _ => s
      match r.target with
      | .closed => redirect fuel (lead .closed) rest
      | .stream 1 => redirect fuel (lead s.output) rest
      | .stream 2 => redirect fuel (lead s.errors) rest
      | .stream _ => redirect fuel (lead .elsewhere) rest
      | .file name =>
        let path := (texts (expandWord fuel s name []).2).headD ""
        if r.stream = 0 then
          match file? path s.input with
          | some data => redirect fuel { s with input := data } rest
          | none => none
        else if path = "/dev/stdout" then redirect fuel (lead s.output) rest
        else if path = "/dev/stderr" then redirect fuel (lead s.errors) rest
        else if isWritable path then redirect fuel (lead .elsewhere) rest
        else none

def launch (fuel : Nat) (inShell : Bool) (argv : List String) (s : State) : Option State :=
  match fuel with
  | 0 => none
  | fuel + 1 =>
    match argv with
    | [] => none
    | path :: args =>
      match programName path, args with
      | "sh", "-c" :: script :: names
      | "bash", "-c" :: script :: names
      | "dash", "-c" :: script :: names =>
        let inner := runWhole fuel script
          { happenings := s.happenings, input := s.input, output := s.output, errors := s.errors
            arguments := if names.isEmpty then [path] else names, isInner := s.isInner }
        some { s with
          happenings := inner.happenings
          later := s.later ++ inner.later
          status := inner.status }
      | "sh", args | "bash", args | "dash", args => some (s.exit (if args.isEmpty then 0 else 2))
      | "env", args =>
        launch fuel false
          (args.dropWhile fun arg => arg == "-i" || arg.toList.contains '=') s
      | name, args => (program? inShell name args s.input).map s.add

def builtin? (fuel : Nat) (argv : List String) (s : State) : Option State :=
  match fuel with
  | 0 => none
  | fuel + 1 =>
    let kill (signal : String) : State :=
      match signal? signal with
      | none => { s.exit 2 with flow := .ends }
      | some n =>
        let name := (ExitStatus.signalName? n).getD ""
        let cannotBeCaught := n = 9 ∨ n = 19
        match (if cannotBeCaught then none else s.traps.lookup name) with
        | some script => runText fuel script (s.exit 0)
        | none =>
          if harmless.contains n then s.exit 0
          else if halting.contains n then (s.exit 0).add { happenings := [.pause ever] }
          else { s with status := .signal n false, flow := .ends }
    match argv with
    | ":" :: _ | "set" :: _ | "export" :: _ | "cd" :: _ | "umask" :: _ | "ulimit" :: _ =>
      some (s.exit 0)
    | ["exit"] | ["return"] => some { s with flow := .ends }
    | "exit" :: code :: _ | "return" :: code :: _ =>
      some { s.exit ((code.toNat?.map (· % 256)).getD 2) with flow := .ends }
    | "break" :: _ => some { s.exit 0 with flow := .leavesLoop }
    | "continue" :: _ => some { s.exit 0 with flow := .nextRound }
    | "exec" :: [] => some (s.exit 0)
    | "exec" :: argv =>
      match launch fuel false argv s with
      | some s => some { s with flow := .ends, traps := [] }
      | none => some { s.exit 127 with flow := .ends, traps := [] }
    | "eval" :: words => some (runText fuel (" ".intercalate words) s)
    | "shift" :: _ =>
      some { s.exit 0 with arguments := s.arguments.take 1 ++ s.arguments.drop 2 }
    | "wait" :: _ =>
      some { s.exit 0 with happenings := s.later.reverse ++ s.happenings, later := [] }
    | "read" :: names =>
      let line := s.input.takeWhile (· != 10)
      let text := (String.fromUTF8? ⟨line.toArray⟩).getD ""
      some { (names.head?.elim s fun name => s.assign name.toList text).exit
          (if line.length < s.input.length then 0 else 1) with
        input := s.input.drop (line.length + 1) }
    | ["trap", "-", name] =>
      some { s.exit 0 with traps := s.traps.filter fun t => t.1 != name }
    | "trap" :: script :: names =>
      some { s.exit 0 with traps := names.map (·, script) ++ s.traps }
    | ["kill", "-s", signal, "4242"] => some (kill signal)
    | ["kill", "4242"] => some (kill "TERM")
    | ["kill", signal, "4242"] => some (kill (String.ofList (signal.toList.drop 1)))
    | "kill" :: _ => some (s.exit 1)
    | _ => none

def runSimple (fuel : Nat) (words : List Word) (s : State) : State :=
  match fuel with
  | 0 => s
  | fuel + 1 =>
    let (assignments, words) := leadingAssignments words
    let s := assignAll fuel (if words.isEmpty then s.exit 0 else s) assignments
    let (s, argv) := expandWords fuel s words
    if argv.isEmpty || s.flow = .ends then s
    else
      match builtin? fuel argv s with
      | some s => s
      | none =>
        match launch fuel true argv { s with isInner := true } with
        | some after => { after with status := .code after.exitCode, isInner := s.isInner }
        | none => s.exit 127

def runLoop (fuel : Nat) (expected : Bool) (test body : Script) (last : ExitStatus) (s : State) :
    State :=
  match fuel with
  | 0 => s
  | fuel + 1 =>
    let s := run fuel test s
    if s.flow = .ends then s
    else if s.status.isSuccess != expected then { s with status := last }
    else
      let s := run fuel body s
      match s.flow with
      | .ends => s
      | .leavesLoop => { s with flow := .next }
      | _ => runLoop fuel expected test body s.status { s with flow := .next }

def runEach (fuel : Nat) (name : List Char) (body : Script) (s : State) : List String → State
  | [] => s
  | value :: rest =>
    match fuel with
    | 0 => s
    | fuel + 1 =>
      let s := run fuel body (s.assign name value)
      match s.flow with
      | .ends => s
      | .leavesLoop => { s with flow := .next }
      | _ => runEach fuel name body { s with flow := .next } rest

def run (fuel : Nat) (script : Script) (s : State) : State :=
  match fuel with
  | 0 => { s with flow := .ends }
  | fuel + 1 =>
    match script with
    | .nothing => s
    | .simple words => runSimple fuel words s
    | .redirected script redirections =>
      match redirect fuel s redirections with
      | none => s.exit 2
      | some t =>
        if isExec script then run fuel script (s.redirectTo t)
        else { run fuel script t with input := s.input, output := s.output, errors := s.errors }
    | .sequence first second =>
      let s := run fuel first s
      if s.flow = .next then run fuel second s else s
    | .provided expected first second =>
      let s := run fuel first s
      if s.flow = .next && s.status.isSuccess = expected then run fuel second s else s
    | .negated script =>
      let s := run fuel script s
      if s.flow = .next then s.exit (if s.status.isSuccess then 1 else 0) else s
    | .piped first second =>
      let left := run fuel first { s with happenings := [], output := .pipe, isInner := true }
      let pauses := left.happenings.filter fun h =>
        match h with
        | .pause _ => true
        | _ => false
      s.addInner (run fuel second
        { s with
          happenings := pauses ++ s.happenings
          input := written left.happenings.reverse
          isInner := true })
    | .background script =>
      let job := run fuel script { s with happenings := [], input := [], isInner := true }
      { s with later := s.later ++ job.happenings.reverse, status := .code 0 }
    | .apart script => s.addInner (run fuel script { s with isInner := true })
    | .choice test yes no =>
      let s := run fuel test s
      if s.flow = .ends then s
      else if s.status.isSuccess then run fuel yes s else run fuel no (s.exit 0)
    | .loop expected test body => runLoop fuel expected test body (.code 0) s
    | .each name words body =>
      let (s, values) := expandWords fuel s words
      runEach fuel name body s values

def runText (fuel : Nat) (text : String) (s : State) : State :=
  match fuel with
  | 0 => s
  | fuel + 1 =>
    match Script.ofText? text.toList with
    | some script => run fuel script s
    | none => { s.exit 2 with flow := .ends }

def runWhole (fuel : Nat) (text : String) (s : State) : State :=
  match fuel with
  | 0 => s
  | fuel + 1 =>
    let s := runText fuel text s
    match s.status, s.traps.lookup "EXIT" with
    | .code _, some script =>
      { runText fuel script { s with flow := .next } with status := s.status }
    | _, _ => s

end

def unrunnable : List String :=
  ["/", ".", "/tmp", "/etc", "/usr", "/bin", "/dev", "/dev/null", "/etc/passwd"]

def patience : Nat := 10000

/-- Starts a program, or says why that cannot be done. -/
def spawn (argv : List String) : Except String Child :=
  match launch patience false argv {} with
  | some s => .ok ⟨s.happenings.reverse ++ s.later, .ok s.status⟩
  | none =>
    if unrunnable.contains (argv.headD "") then .error "Permission denied (os error 13)"
    else .error "No such file or directory (os error 2)"

end Fanout.Shell
