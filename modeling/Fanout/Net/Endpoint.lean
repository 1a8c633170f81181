import Fanout.Text.Scan

namespace Fanout

inductive Host where
  | four (octets : List Nat)
  | six (groups : List Nat) (scope : Nat)
deriving DecidableEq, Inhabited

structure Endpoint where
  host : Host
  number : Nat
deriving DecidableEq, Inhabited

namespace Host

def isDigitOf (base : Nat) (c : Char) : Bool := (hexValue? c).any (· < base)

def numeral (base bound : Nat) : Scan Nat := do
  let n := Scan.valueOfDigits base (← Scan.someOf (isDigitOf base))
  guard (n < bound)
  pure n

def octet : Scan Nat := do
  let digits ← Scan.someOf (isDigitOf 10)
  let n := Scan.valueOfDigits 10 digits
  guard (n < 256 ∧ digits.length ≤ 3 ∧ (digits.length = 1 ∨ digits.head? ≠ some '0'))
  pure n

def octets : Scan (List Nat) := do
  let a ← octet
  Scan.expect ['.']
  let b ← octet
  Scan.expect ['.']
  let c ← octet
  Scan.expect ['.']
  let d ← octet
  return [a, b, c, d]

def group : Scan Nat := do
  let digits ← Scan.someOf (isDigitOf 16)
  guard (digits.length ≤ 4)
  pure (Scan.valueOfDigits 16 digits)

/-- Up to `limit` groups with colons between them. Four octets can take the place of the last two
groups; whether they did is told. -/
def groups : Nat → Bool → Scan (List Nat × Bool)
  | 0, _ => pure ([], false)
  | limit + 1, first =>
    let colon : Scan Unit := if first then pure () else Scan.expect [':']
    (do
      guard (0 < limit)
      colon
      match ← octets with
      | [a, b, c, d] => pure ([256 * a + b, 256 * c + d], true)
      | _ => failure) <|>
    (do
      colon
      let g ← group
      let (rest, ended) ← groups limit false
      pure (g :: rest, ended)) <|>
    pure ([], false)

/-- Eight groups, or fewer with two colons in the place of at least one group of zero. -/
def eightGroups : Scan (List Nat) := do
  let (front, ended) ← groups 8 true
  if front.length = 8 then return front
  guard !ended
  Scan.expect [':', ':']
  let (back, _) ← groups (7 - front.length) true
  return front ++ List.replicate (8 - front.length - back.length) 0 ++ back

def bracketed : Scan Host := do
  Scan.expect ['[']
  let gs ← eightGroups
  let scope ← if ← Scan.accept ['%'] then numeral 10 (Nat.pow 2 32) else pure 0
  Scan.expect [']']
  return .six gs scope

def zeroRun (gs : List Nat) : Nat × Nat :=
  (List.range gs.length).foldl (fun (start, length) i =>
    let run := ((gs.drop i).takeWhile (· == 0)).length
    if length < run then (i, run) else (start, length)) (0, 0)

def octetsText (os : List Nat) : String := ".".intercalate (os.map toString)

def groupsText (gs : List Nat) : String :=
  ":".intercalate (gs.map fun g => String.ofList (Nat.toDigits 16 g))

/-- Two colons take the place of the longest run of zero groups, if it has at least two. -/
def sixText (gs : List Nat) : String :=
  match gs with
  | [0, 0, 0, 0, 0, 0xffff, a, b] => "::ffff:" ++ octetsText [a / 256, a % 256, b / 256, b % 256]
  | _ =>
    let (start, length) := zeroRun gs
    if length < 2 then groupsText gs
    else groupsText (gs.take start) ++ "::" ++ groupsText (gs.drop (start + length))

def toText : Host → String
  | .four os => octetsText os
  | .six gs scope =>
    "[" ++ sixText gs ++ (if scope = 0 then "" else "%" ++ toString scope) ++ "]"

end Host

namespace Endpoint

def scan : Scan Endpoint := do
  let host ← (Host.four <$> Host.octets) <|> Host.bracketed
  Scan.expect [':']
  return ⟨host, ← Host.numeral 10 (Nat.pow 2 16)⟩

def ofText? (text : String) : Option Endpoint := scan.whole text

def toText (e : Endpoint) : String := e.host.toText ++ ":" ++ toString e.number

end Endpoint

end Fanout
