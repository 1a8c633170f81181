import Fanout.Feed.Child
import Fanout.Feed.Shell.Escape

namespace Fanout.Shell

structure Run where
  happenings : List Happening := []
  status : ExitStatus := .code 0
deriving Inhabited

def Run.write (data : Bytes) : Run :=
  { happenings := if data.isEmpty then [] else [.output data] }

def Run.fail (n : Nat) : Run := { status := .code n }

def Run.verdict (holds : Bool) : Run := .fail (if holds then 0 else 1)

def written (happenings : List Happening) : Bytes :=
  happenings.flatMap fun h =>
    match h with
    | .output data => data
    | _ => []

def abundance : Nat := 1048576

def file? (path : String) (input : Bytes) : Option Bytes :=
  match path with
  | "-" | "/dev/stdin" => some input
  | "/dev/null" => some []
  | "/dev/zero" => some (List.replicate abundance 0)
  | _ => none

def amount? (unit? : List Char → Option Nat) (text : String) : Option Nat := do
  let digits := text.toList.takeWhile Char.isDigit
  guard !digits.isEmpty
  return Scan.valueOfDigits 10 digits * (← unit? (text.toList.dropWhile Char.isDigit))

def count? : String → Option Nat :=
  amount? fun unit =>
    match String.ofList unit with
    | "" | "c" => some 1
    | "b" => some 512
    | "kB" | "KB" => some 1000
    | "k" | "K" | "KiB" => some 1024
    | "MB" => some 1000000
    | "M" | "MiB" => some 1048576
    | _ => none

def milliseconds? (text : String) : Option Nat := do
  let whole := text.toList.takeWhile Char.isDigit
  let rest := text.toList.dropWhile Char.isDigit
  let (part, rest) :=
    match rest with
    | '.' :: rest => (rest.takeWhile Char.isDigit, rest.dropWhile Char.isDigit)
    | _ => ([], rest)
  guard !(whole ++ part).isEmpty
  let thousandths := Scan.valueOfDigits 10 (whole ++ (part ++ ['0', '0', '0']).take 3)
  match rest with
  | [] | ['s'] => some thousandths
  | ['m'] => some (60 * thousandths)
  | ['h'] => some (3600 * thousandths)
  | _ => none

def concatenate (input : Bytes) : List String → Run
  | [] => {}
  | path :: rest =>
    let others := concatenate input rest
    match file? path input with
    | some data =>
      { others with happenings := (Run.write data).happenings ++ others.happenings }
    | none => { others with status := .code 1 }

def lines : (count : Nat) → Bytes → Bytes
  | _, [] => []
  | 0, _ => []
  | n + 1, b :: rest => if b = 10 then b :: lines n rest else b :: lines (n + 1) rest

def echo (inShell : Bool) (args : List String) : Run :=
  let (hasNewline, args) :=
    match args with
    | "-n" :: args => (false, args)
    | args => (true, args)
  let (replaces, args) :=
    match args with
    | "-e" :: rest => if inShell then (true, args) else (true, rest)
    | _ => (inShell, args)
  let text := " ".intercalate args
  let (data, hasStopped) :=
    if replaces then unescape (.argument inShell) text else (Bytes.ofText text, false)
  .write (if hasNewline && !hasStopped then data ++ [10] else data)

def printf (inShell : Bool) : List String → Run
  | [] => .fail (if inShell then 2 else 1)
  | format :: args =>
    let p := printed inShell format args
    { Run.write p.data with
      status := .code (if p.isValid then 0 else if inShell && p.hasStopped then 2 else 1) }

def sequence (first step last : Nat) : Run :=
  if step = 0 then .fail 1
  else .write ((List.range' first ((last + step - first) / step) step).flatMap fun n =>
    Bytes.ofText (toString n) ++ [10])

def head (input : Bytes) (part : String) (path : String) : Run :=
  let named (n : String) (cut : Nat → Bytes) : Run :=
    match n.toNat? with
    | some n => .write (cut n)
    | none => .fail 1
  match path, part.toList with
  | "/dev/zero", 'c' :: n =>
    (count? (String.ofList n)).elim (.fail 1) fun n => .write (List.replicate n 0)
  | _, 'c' :: n =>
    match count? (String.ofList n), file? path input with
    | some n, some data => .write (data.take n)
    | _, _ => .fail 1
  | _, 'n' :: n =>
    (file? path input).elim (.fail 1) fun data => named (String.ofList n) (lines · data)
  | _, _ => .fail 1

def copyBlocks (input : Bytes) (args : List String) : Run :=
  let option (name : String) : Option String :=
    (args.find? (name ++ "=").isPrefixOf).map fun arg =>
      String.ofList (arg.toList.drop (name.length + 1))
  let size := ((option "bs").bind count?).getD 512
  match option "if", (option "count").bind count? with
  | some "/dev/zero", some n => .write (List.replicate (n * size) 0)
  | path, n =>
    match file? (path.getD "-") input with
    | some data =>
      .write (if (option "of").isSome then [] else n.elim data fun n => data.take (n * size))
    | none => .fail 1

def characterSet (text : String) : Bytes :=
  let rec ranges : Bytes → Bytes
    | a :: 45 :: b :: rest =>
      (List.range' a.toNat (b.toNat + 1 - a.toNat)).map UInt8.ofNat ++ ranges rest
    | a :: rest => a :: ranges rest
    | [] => []
  ranges (unescape (.argument true) text).1

def substitute (set partners : Bytes) (input : Bytes) : Bytes :=
  input.map fun b =>
    match set.findIdx? (· == b) with
    | some i => (partners[i]?).getD (partners.getLastD b)
    | none => b

def compare? (op : String) (a b : Int) : Option Bool :=
  match op with
  | "-eq" => some (a == b)
  | "-ne" => some (a != b)
  | "-lt" => some (a < b)
  | "-le" => some (a ≤ b)
  | "-gt" => some (a > b)
  | "-ge" => some (a ≥ b)
  | _ => none

def test : List String → Run
  | [] => .verdict false
  | ["!", a] => .verdict a.isEmpty
  | [a] => .verdict (!a.isEmpty)
  | ["-n", a] => .verdict (!a.isEmpty)
  | ["-z", a] => .verdict a.isEmpty
  | "!" :: a :: op :: b :: [] => .verdict ((test3 a op b).status != .code 0)
  | [a, op, b] => test3 a op b
  | _ => .fail 2
where
  test3 (a op b : String) : Run :=
    match op with
    | "=" => .verdict (a == b)
    | "!=" => .verdict (a != b)
    | _ =>
      match number a, number b with
      | (a, true), (b, true) => (compare? op a b).elim (.fail 2) .verdict
      | _, _ => .fail 2

/-- The programs. Some of them behave in another way when the shell itself provides them. -/
def program? (inShell : Bool) (name : String) (args : List String) (input : Bytes) : Option Run :=
  match name, args with
  | "true", _ => some {}
  | "false", _ => some (.fail 1)
  | "echo", args => some (echo inShell args)
  | "printf", args => some (printf inShell args)
  | "cat", [] => some (.write input)
  | "cat", args => some (concatenate input args)
  | "sleep", [] => some (.fail 1)
  | "sleep", args =>
    match args.mapM milliseconds? with
    | some times => some { happenings := [.pause (sum times)] }
    | none => some (.fail 1)
  | "head", [] => some (.write (lines 10 input))
  | "head", option :: args =>
    match option, args with
    | "-c", n :: args => some (head input ("c" ++ n) (args.headD "-"))
    | "-n", n :: args => some (head input ("n" ++ n) (args.headD "-"))
    | _, args =>
      if "-c".isPrefixOf option || "-n".isPrefixOf option then
        some (head input (String.ofList (option.toList.drop 1)) (args.headD "-"))
      else some ((file? option input).elim (.fail 1) fun data => .write (lines 10 data))
  | "seq", args =>
    match args.map String.toNat? with
    | [some last] => some (sequence 1 1 last)
    | [some first, some last] => some (sequence first 1 last)
    | [some first, some step, some last] => some (sequence first step last)
    | _ => some (.fail 1)
  | "yes", args =>
    let line := Bytes.ofText (if args.isEmpty then "y" else " ".intercalate args) ++ [10]
    some (.write (List.replicate (abundance / line.length) line).flatten)
  | "dd", args => some (copyBlocks input args)
  | "wc", ["-c"] => some (.write (Bytes.ofText (toString input.length) ++ [10]))
  | "wc", ["-l"] => some (.write (Bytes.ofText (toString (input.count 10)) ++ [10]))
  | "tr", ["-d", set] => some (.write (input.filter fun b => !(characterSet set).contains b))
  | "tr", [set, partners] =>
    some (.write (substitute (characterSet set) (characterSet partners) input))
  | "test", args => some (test args)
  | "[", args =>
    some (if args.getLast? = some "]" then test args.dropLast else .fail 2)
  | _, _ => none

end Fanout.Shell
