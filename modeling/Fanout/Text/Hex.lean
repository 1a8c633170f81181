import Fanout.Bytes

namespace Fanout

def hexValue? (c : Char) : Option Nat :=
  if c.isDigit then some (c.toNat - '0'.toNat)
  else if 'a' ≤ c ∧ c ≤ 'f' then some (c.toNat - 'a'.toNat + 10)
  else if 'A' ≤ c ∧ c ≤ 'F' then some (c.toNat - 'A'.toNat + 10)
  else none

namespace Bytes

def hex (data : Bytes) : String :=
  String.ofList (data.flatMap fun b =>
    [Nat.digitChar (b.toNat / 16), Nat.digitChar (b.toNat % 16)])

def ofHex : List Char → Bytes
  | a :: b :: rest =>
    UInt8.ofNat ((hexValue? a).getD 0 * 16 + (hexValue? b).getD 0) :: ofHex rest
  | _ => []

/-- The 64-bit digest that multiplies by a prime after each byte was added without carry. -/
def digest (data : Bytes) : UInt64 :=
  data.foldl (fun h b => (h ^^^ b.toUInt64) * 0x100000001b3) 0xcbf29ce484222325

def digestText (data : Bytes) : String :=
  let digits := Nat.toDigits 16 (digest data).toNat
  String.ofList (List.replicate (16 - digits.length) '0' ++ digits)

end Bytes

end Fanout
