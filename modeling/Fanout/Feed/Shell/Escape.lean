import Fanout.Bytes
import Fanout.Text.Scan

namespace Fanout.Shell

def charBytes (c : Char) : Bytes := Bytes.ofText (String.singleton c)

structure EscapeStyle where
  extended : Bool
  leadingZero : Bool
  stops : Bool
deriving DecidableEq, Inhabited

def EscapeStyle.format (inShell : Bool) : EscapeStyle := ⟨!inShell, false, !inShell⟩

def EscapeStyle.argument (inShell : Bool) : EscapeStyle := ⟨!inShell, true, true⟩

def simpleEscapes : List (Char × UInt8) :=
  [('a', 7), ('b', 8), ('t', 9), ('n', 10), ('v', 11), ('f', 12), ('r', 13), ('e', 27), ('\\', 92)]

def isHexDigit (c : Char) : Bool := (hexValue? c).isSome

def isOctalDigit (c : Char) : Bool := '0' ≤ c && c ≤ '7'

def byteOfDigits (isDigit : Char → Bool) (base n : Nat) : Scan Bytes := fun text =>
  let digits := (text.take n).takeWhile isDigit
  some ([UInt8.ofNat (Scan.valueOfDigits base digits)], text.drop digits.length)

/-- What an escape stands for, read after its backslash. A backslash without a meaning stands
for itself, and the end of all output is left where it is. -/
def EscapeStyle.escape (style : EscapeStyle) : Scan (Option Bytes) := do
  match ← get with
  | [] => return some [92]
  | c :: rest =>
    match simpleEscapes.lookup c with
    | some b => set rest; return some [b]
    | none =>
      if c = '"' && style.extended then set rest; return some [34]
      else if c = 'c' && style.stops then set ('\\' :: c :: rest); return none
      else if c = 'x' && style.extended && (rest.head?.any isHexDigit) then
        set rest
        some <$> byteOfDigits isHexDigit 16 2
      else if isOctalDigit c then
        if c = '0' && style.leadingZero then set rest
        some <$> byteOfDigits isOctalDigit 8 3
      else return some [92]

def EscapeStyle.piece (style : EscapeStyle) : Scan (Option Bytes) := do
  match ← get with
  | [] => return none
  | '\\' :: rest => set rest; style.escape
  | c :: rest => set rest; return some (charBytes c)

def unescape (style : EscapeStyle) (text : String) : Bytes × Bool :=
  match (Scan.collect style.piece).run text.toList with
  | some (parts, rest) => (parts.flatten, !rest.isEmpty)
  | none => ([], false)

structure Conversion where
  flags : List Char
  width : Nat
  precision : Option Nat
  kind : Char
deriving Inhabited

def Conversion.kinds : List Char := "sbcdiuoxX%".toList

def conversion : Scan Conversion := do
  let flags ← Scan.many "-0+ ".toList.contains
  let width ← Scan.many Char.isDigit
  let precision ←
    if ← Scan.accept ['.'] then some <$> Scan.many Char.isDigit else pure none
  let kind ← Scan.one Conversion.kinds.contains
  return ⟨flags, Scan.valueOfDigits 10 width, precision.map (Scan.valueOfDigits 10), kind⟩

inductive FormatPiece where
  | data (data : Bytes)
  | argument (conversion : Conversion)
  | stop (isWrong : Bool)
deriving Inhabited

def formatPiece (style : EscapeStyle) : Scan (Option FormatPiece) := do
  match ← get with
  | [] => return none
  | '%' :: rest =>
    match conversion.run rest with
    | some (c, rest) => set rest; return some (.argument c)
    | none => set ([] : List Char); return some (.stop true)
  | _ =>
    match ← style.piece with
    | some data => return some (.data data)
    | none => set ([] : List Char); return some (.stop false)

def number (text : String) : Int × Bool :=
  let reader : Scan Int := do
    let isNegative ← Scan.accept ['-']
    let _ ← if isNegative then pure false else Scan.accept ['+']
    let digits ←
      if ← Scan.accept ['0', 'x'] then Scan.valueOfDigits 16 <$> Scan.many isHexDigit
      else if ← Scan.startsWith ['0'] then Scan.valueOfDigits 8 <$> Scan.many isOctalDigit
      else Scan.valueOfDigits 10 <$> Scan.many Char.isDigit
    return if isNegative then - (digits : Int) else digits
  match reader.run text.toList with
  | some (n, rest) => (n, rest.isEmpty)
  | none => (0, false)

structure Printed where
  data : Bytes := []
  isValid : Bool := true
  hasStopped : Bool := false
deriving Inhabited

def Conversion.pad (c : Conversion) (data : Bytes) : Bytes :=
  let gap := c.width - data.length
  if c.flags.contains '-' then data ++ List.replicate gap 32
  else List.replicate gap 32 ++ data

def Conversion.showNumber (c : Conversion) (n : Int) : Bytes :=
  let base := if c.kind = 'x' || c.kind = 'X' then 16 else if c.kind = 'o' then 8 else 10
  let digits := Nat.toDigits base n.natAbs
  let digits := if c.kind = 'X' then digits.map Char.toUpper else digits
  let sign :=
    if n < 0 then ['-']
    else if c.flags.contains '+' then ['+'] else if c.flags.contains ' ' then [' '] else []
  let least :=
    if c.flags.contains '0' && !c.flags.contains '-' && c.precision.isNone then
      c.width - sign.length
    else c.precision.getD 0
  let zeros := List.replicate (least - digits.length) '0'
  c.pad ((sign ++ zeros ++ digits).flatMap charBytes)

def Printed.add (p : Printed) (data : Bytes) : Printed := { p with data := p.data ++ data }

def Printed.convert (p : Printed) (inShell : Bool) (c : Conversion) (argument : String) :
    Printed :=
  let cut (data : Bytes) := c.precision.elim data data.take
  match c.kind with
  | 's' => p.add (c.pad (cut (Bytes.ofText argument)))
  | 'b' =>
    let (data, stops) := unescape (.argument inShell) argument
    { p.add (c.pad (cut data)) with hasStopped := stops }
  | 'c' => p.add (c.pad ((Bytes.ofText argument).take 1))
  | _ =>
    let (n, isValid) := if argument.isEmpty then (0, true) else number argument
    { p.add (c.showNumber n) with isValid := p.isValid && isValid }

def fill (inShell : Bool) : List FormatPiece → List String → Printed → Printed × List String
  | [], arguments, p => (p, arguments)
  | piece :: rest, arguments, p =>
    if p.hasStopped then (p, [])
    else
      match piece with
      | .data data => fill inShell rest arguments (p.add data)
      | .stop isWrong => ({ p with isValid := p.isValid && !isWrong, hasStopped := true }, [])
      | .argument c =>
        if c.kind = '%' then fill inShell rest arguments (p.add [37])
        else fill inShell rest arguments.tail (p.convert inShell c (arguments.headD ""))

def fillAll (inShell : Bool) (pieces : List FormatPiece) : Nat → List String → Printed → Printed
  | 0, arguments, p => (fill inShell pieces arguments p).1
  | fuel + 1, arguments, p =>
    let (p, left) := fill inShell pieces arguments p
    if left.isEmpty || left.length = arguments.length then p
    else fillAll inShell pieces fuel left p

def printed (inShell : Bool) (format : String) (arguments : List String) : Printed :=
  match (Scan.collect (formatPiece (.format inShell))).run format.toList with
  | some (pieces, _) => fillAll inShell pieces arguments.length arguments {}
  | none => {}

end Fanout.Shell
