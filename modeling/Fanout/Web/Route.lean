import Fanout.Bytes
import Fanout.Text.Hex

namespace Fanout.Web

structure WebRequest where
  method : String
  path : String
  query : Option String := none
deriving DecidableEq, Inhabited

def dropHost (address : List Char) : List Char :=
  match address with
  | '/' :: _ => address
  | _ =>
    match (address.dropWhile (· ≠ ':')).drop 1 with
    | '/' :: '/' :: rest => rest.dropWhile fun c => c ≠ '/' && c ≠ '?'
    | _ => address

/-- The query follows the first question mark, and what follows a hash is dropped. -/
def WebRequest.ofAddress (method address : String) : WebRequest :=
  let text := (dropHost address.toList).takeWhile (· ≠ '#')
  let path := text.takeWhile (· ≠ '?')
  { method := method
    path := if path.isEmpty then "/" else String.ofList path
    query :=
      match text.drop path.length with
      | _ :: query => some (String.ofList query)
      | [] => none }

def percentDecode : Bytes → Bytes
  | [] => []
  | b :: high :: low :: rest =>
    match hexValue? (Char.ofNat high.toNat), hexValue? (Char.ofNat low.toNat) with
    | some h, some l =>
      if b = '%'.toUInt8 then UInt8.ofNat (16 * h + l) :: percentDecode rest
      else b :: percentDecode (high :: low :: rest)
    | _, _ => b :: percentDecode (high :: low :: rest)
  | b :: rest => b :: percentDecode rest

def decodePart? (part : String) : Option String :=
  String.fromUTF8? ⟨(percentDecode (.ofText part)).toArray⟩

inductive Route where
  | stream (part : String)
  | relays
  | sweep
  | stats
  | channels
  | stop (part : String)
deriving DecidableEq, Inhabited

namespace Route

def ofPath? (path : String) : Option Route :=
  match path.splitOn "/" with
  | ["", "stream", name] => if name = "" then none else some (.stream name)
  | ["", "api", "relays"] => some .relays
  | ["", "api", "relays", "sweep"] => some .sweep
  | ["", "api", "stats"] => some .stats
  | ["", "api", "channels"] => some .channels
  | ["", "api", "channels", name, "stop"] => if name = "" then none else some (.stop name)
  | _ => none

def methods : Route → List String
  | .sweep | .stop _ => ["POST"]
  | _ => ["GET", "HEAD"]

end Route

end Fanout.Web
