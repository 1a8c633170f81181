import Fanout.Text.Blank

namespace Fanout

structure StreamKey where
  text : String
deriving DecidableEq, Inhabited

namespace StreamKey

def dropMarks (query : List Char) : List Char := query.dropWhile (· == '?')

/-- The key of an address and a query. A missing or blank query leaves the bare address; any
other is trimmed, loses its leading question marks and is joined with one. -/
def ofQuery (address : String) (query : Option String) : StreamKey :=
  match query.map fun q => Text.trim q.toList with
  | none | some [] => ⟨address⟩
  | some q => ⟨address ++ "?" ++ String.ofList (dropMarks q)⟩

/-- The key is the address itself, or the address followed by a query. -/
def belongsTo (key : StreamKey) (address : String) : Bool :=
  address.toList.isPrefixOf key.text.toList &&
    match key.text.toList.drop address.toList.length with
    | [] => true
    | c :: _ => c == '?'

def isBlank (key : StreamKey) : Bool := Text.isBlankText key.text

/-- Keys are ordered by code points, which is also the order of their UTF-8 bytes. -/
def compare (a b : StreamKey) : Ordering := Ord.compare a.text b.text

instance : LT StreamKey := ⟨fun a b => a.text < b.text⟩
instance : DecidableLT StreamKey := fun a b => inferInstanceAs (Decidable (a.text < b.text))

end StreamKey

/-- The address a feed is fetched from: the query is trimmed, loses its leading question marks and
is appended to the base, with an ampersand if the base already has a query. -/
def feedAddress (base : String) (query : Option String) : String :=
  match query.map fun q => StreamKey.dropMarks (Text.trim q.toList) with
  | none | some [] => base
  | some q =>
    if '?' ∈ base.toList then base ++ "&" ++ String.ofList q else base ++ "?" ++ String.ofList q

end Fanout
