import Fanout.Text.Scan

namespace Fanout.Numeral

def digits? (text : List Char) : Option Nat :=
  if text.isEmpty || !text.all Char.isDigit then none else some (Scan.valueOfDigits 10 text)

def unsigned? (bound : Nat) (text : List Char) : Option Nat :=
  let n? :=
    match text with
    | '+' :: rest => digits? rest
    | _ => digits? text
  n?.filter (· < bound)

def signed? (bound : Nat) (text : List Char) : Option Nat :=
  match text with
  | '-' :: rest => (digits? rest).filter (· = 0)
  | _ => unsigned? bound text

end Fanout.Numeral
