import Fanout.Text.Scan
import Fanout.Toml.Value

namespace Fanout.Toml

def fixed (n low high : Nat) : Scan Nat := do
  let text ← get
  let ds := text.take n
  guard (ds.length == n && ds.all Char.isDigit)
  set (text.drop n)
  let value := Scan.valueOfDigits 10 ds
  guard (decide (low ≤ value ∧ value ≤ high))
  pure value

def isLeap (year : Nat) : Bool := year % 4 == 0 && (year % 100 != 0 || year % 400 == 0)

def daysInMonth (year month : Nat) : Nat :=
  if month = 2 then if isLeap year then 29 else 28
  else if month ∈ [4, 6, 9, 11] then 30
  else 31

def date : Scan Unit := do
  let year ← fixed 4 0 9999
  Scan.expect ['-']
  let month ← fixed 2 1 12
  Scan.expect ['-']
  discard (fixed 2 1 (daysInMonth year month))

def clock : Scan Unit := do
  discard (fixed 2 0 23)
  Scan.expect [':']
  discard (fixed 2 0 59)
  Scan.expect [':']
  discard (fixed 2 0 60)
  if ← Scan.accept ['.'] then discard (Scan.someOf Char.isDigit)

def offset : Scan Unit := do
  if (← Scan.accept ['Z']) || (← Scan.accept ['z']) then return
  discard (Scan.one fun c => c == '+' || c == '-')
  discard (fixed 2 0 23)
  Scan.expect [':']
  discard (fixed 2 0 59)

def clockOfDate : Scan Unit := do
  discard (Scan.one fun c => c == 'T' || c == 't' || c == ' ')
  clock
  offset <|> pure ()

def beginsMoment (text : List Char) : Bool :=
  let count := (text.takeWhile Char.isDigit).length
  let after := (text.dropWhile Char.isDigit).head?
  (count == 4 && after == some '-') || (count == 2 && after == some ':')

def moment : Scan Value := do
  let written ← Scan.taken ((do date; clockOfDate <|> pure ()) <|> clock)
  return .moment (String.ofList written)

end Fanout.Toml
