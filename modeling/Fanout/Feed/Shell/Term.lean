import Fanout.Text.Scan

namespace Fanout.Shell

abbrev Operation := List Char × (Int → Int → Option Int)

def comparison (op : String) (holds : Int → Int → Bool) : Operation :=
  (op.toList, fun a b => some (if holds a b then 1 else 0))

def comparisons : List Operation :=
  [comparison "<=" (· ≤ ·), comparison ">=" (· ≥ ·), comparison "==" (· == ·),
    comparison "!=" (· != ·), comparison "<" (· < ·), comparison ">" (· > ·)]

def sums : List Operation :=
  [(['+'], fun a b => some (a + b)), (['-'], fun a b => some (a - b))]

def products : List Operation :=
  [(['*'], fun a b => some (a * b)),
    (['/'], fun a b => if b = 0 then none else some (a.tdiv b)),
    (['%'], fun a b => if b = 0 then none else some (a.tmod b))]

def spaces : Scan Unit := do
  let _ ← Scan.many fun c => c == ' ' || c == '\t' || c == '\n'

def operation? : List Operation → Scan (Option (Int → Int → Option Int))
  | [] => pure none
  | (op, f) :: rest => do
    if ← Scan.accept op then return some f else operation? rest

def leftToRight (operations : List Operation) (operand : Scan Int) : Nat → Int → Scan Int
  | 0, _ => failure
  | fuel + 1, left => do
    spaces
    match ← operation? operations with
    | none => return left
    | some f =>
      let right ← operand
      leftToRight operations operand fuel (← (f left right : Option Int))

def term (valueOf : List Char → Int) : Nat → Scan Int
  | 0 => failure
  | fuel + 1 => do
    let operand : Scan Int := do
      spaces
      let signs ← Scan.many (· == '-')
      let value ←
        if ← Scan.accept ['('] then
          let value ← term valueOf fuel
          spaces
          Scan.expect [')']
          pure value
        else
          let _ ← Scan.accept ['$']
          let run ← Scan.someOf fun c => c.isAlphanum || c == '_'
          pure (if (run.headD ' ').isDigit then (Scan.valueOfDigits 10 run : Int) else valueOf run)
      return if signs.length % 2 = 1 then - value else value
    let product : Scan Int := do leftToRight products operand fuel (← operand)
    let sum : Scan Int := do leftToRight sums product fuel (← product)
    leftToRight comparisons sum fuel (← sum)

def valueOfTerm? (valueOf : List Char → Int) (text : List Char) : Option Int :=
  match (do let n ← term valueOf (text.length + 1); spaces; return n : Scan Int).run text with
  | some (n, []) => some n
  | _ => none

end Fanout.Shell
