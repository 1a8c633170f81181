import Fanout.Text.Scan
import Fanout.Toml.Value

namespace Fanout.Toml

def restOfDigits (isDigit : Char → Bool) : List Char → Option (List Char × List Char)
  | [] => some ([], [])
  | '_' :: c :: rest =>
    if isDigit c then (restOfDigits isDigit rest).map fun (ds, rest) => (c :: ds, rest) else none
  | c :: rest =>
    if isDigit c then (restOfDigits isDigit rest).map fun (ds, rest) => (c :: ds, rest)
    else if c == '_' then none
    else some ([], c :: rest)

def digits (isDigit : Char → Bool) : Scan (List Char) := do
  let first ← Scan.one isDigit
  return first :: (← restOfDigits isDigit)

def wholeDigits : Scan (List Char) := do
  if ← Scan.accept ['0'] then return ['0']
  digits Char.isDigit

def integer (n : Int) : Scan Value := do
  guard (-Int.pow 2 63 ≤ n ∧ n < Int.pow 2 63)
  pure (.integer n)

def sign : Scan Bool := do
  if ← Scan.accept ['-'] then return true
  discard (Scan.accept ['+'])
  return false

/-- `mantissa * 10 ^ exponent` is so large that it rounds to infinity: it is at least halfway from
the largest float to the power of two above it. The first test keeps the powers small. -/
def isTooLarge (mantissa : Nat) (exponent : Int) : Bool :=
  let magnitude := (Nat.toDigits 10 mantissa).length + exponent
  let bound := Nat.pow 2 1024 - Nat.pow 2 970
  if mantissa = 0 ∨ magnitude < 300 then false
  else if 320 < magnitude then true
  else if 0 ≤ exponent then bound ≤ mantissa * Nat.pow 10 exponent.toNat
  else bound * Nat.pow 10 (-exponent).toNat ≤ mantissa

def exponent : Scan (Option Int) := do
  if (← Scan.accept ['e']) || (← Scan.accept ['E']) then
    let negative ← sign
    let n := Scan.valueOfDigits 10 (← digits Char.isDigit)
    return some (if negative then -n else n)
  return none

def fraction : Scan (Option (List Char)) := do
  if ← Scan.accept ['.'] then return some (← digits Char.isDigit)
  return none

def decimal : Scan Value := do
  let before ← get
  let negative ← sign
  if (← Scan.accept "inf".toList) || (← Scan.accept "nan".toList) then
    return .float (String.ofList (before.take (before.length - (← get).length)))
  let whole ← wholeDigits
  let decimals ← fraction
  let scale ← exponent
  if decimals.isNone && scale.isNone then
    let n := Scan.valueOfDigits 10 whole
    integer (if negative then -n else n)
  else
    let decimals := decimals.getD []
    let tooLarge :=
      isTooLarge (Scan.valueOfDigits 10 (whole ++ decimals)) (scale.getD 0 - decimals.length)
    guard (negative || !tooLarge)
    return .float (String.ofList (before.take (before.length - (← get).length)))

def number : Scan Value := do
  if ← Scan.accept "0x".toList then
    integer (Scan.valueOfDigits 16 (← digits fun c => (hexValue? c).isSome))
  else if ← Scan.accept "0o".toList then
    integer (Scan.valueOfDigits 8 (← digits fun c => '0' ≤ c && c ≤ '7'))
  else if ← Scan.accept "0b".toList then
    integer (Scan.valueOfDigits 2 (← digits fun c => c == '0' || c == '1'))
  else decimal

end Fanout.Toml
