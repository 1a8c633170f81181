import Fanout.Log.Retention
import Fanout.Toml.Moment

namespace Fanout.Retention

def yearOf (day : Int) : Int :=
  let guess := 1970 + Int.fdiv (day * 400) 146097
  if day < newYear guess then guess - 1
  else if newYear (guess + 1) ≤ day then guess + 1
  else guess

def monthOf (year : Nat) : List Nat → Nat → Nat × Nat
  | [], day => (12, day + 1)
  | month :: rest, day =>
    let length := Toml.daysInMonth year month
    if day < length then (month, day + 1) else monthOf year rest (day - length)

def padded (width n : Nat) : String :=
  let digits := toString n
  String.ofList (List.replicate (width - digits.length) '0') ++ digits

def dateText (time : Int) : String :=
  let day := Int.fdiv time 86400000
  let year := yearOf day
  let (month, rest) := monthOf year.toNat (List.range' 1 12) (day - newYear year).toNat
  padded 4 year.toNat ++ "-" ++ padded 2 month ++ "-" ++ padded 2 rest

def fileName (time : Int) : String := logName ++ "." ++ dateText time

end Fanout.Retention
