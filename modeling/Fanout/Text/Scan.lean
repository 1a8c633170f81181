import Fanout.Text.Hex

namespace Fanout

/-- A reader refuses a text, or answers with what it read and what is left. -/
abbrev Scan := StateT (List Char) Option

namespace Scan

def any : Scan Char
  | [] => none
  | c :: rest => some (c, rest)

def one (p : Char → Bool) : Scan Char := do
  let c ← any
  guard (p c)
  pure c

def next : Scan (Option Char) := fun text => some (text.head?, text)

def startsWith (word : List Char) : Scan Bool := fun text => some (word.isPrefixOf text, text)

def accept (word : List Char) : Scan Bool := fun text =>
  if word.isPrefixOf text then some (true, text.drop word.length) else some (false, text)

def expect (word : List Char) : Scan Unit := do guard (← accept word)

def many (p : Char → Bool) : Scan (List Char) := fun text =>
  some (text.takeWhile p, text.dropWhile p)

def someOf (p : Char → Bool) : Scan (List Char) := do
  let run ← many p
  guard !run.isEmpty
  pure run

def valueOfDigits (base : Nat) (digits : List Char) : Nat :=
  digits.foldl (fun n d => base * n + (hexValue? d).getD 0) 0

def pieces {α : Type} (piece : Scan (Option α)) : Nat → Scan (List α)
  | 0 => failure
  | fuel + 1 => do
    match ← piece with
    | none => pure []
    | some a => return a :: (← pieces piece fuel)

/-- All pieces up to the place where there are no more. Each has at least one character. -/
def collect {α : Type} (piece : Scan (Option α)) : Scan (List α) := do
  pieces piece ((← get).length + 1)

def taken (reader : Scan Unit) : Scan (List Char) := do
  let before ← get
  reader
  return before.take (before.length - (← get).length)

def whole {α : Type} (reader : Scan α) (text : String) : Option α :=
  match reader.run text.toList with
  | some (a, []) => some a
  | _ => none

end Scan

end Fanout
