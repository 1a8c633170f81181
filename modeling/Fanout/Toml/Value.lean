namespace Fanout.Toml

inductive Value where
  | text (s : String)
  | integer (n : Int)
  | float (written : String)
  | boolean (b : Bool)
  | moment (written : String)
  | list (items : List Value)
  | table (entries : List (String × Value))
deriving Inhabited

namespace Value

def asText? : Value → Option String
  | .text s => some s
  | _ => none

def asNat? (bound : Nat) : Value → Option Nat
  | .integer (.ofNat n) => if n < bound then some n else none
  | _ => none

def asList? : Value → Option (List Value)
  | .list items => some items
  | _ => none

def asTable? : Value → Option (List (String × Value))
  | .table entries => some entries
  | _ => none

end Value

end Fanout.Toml
