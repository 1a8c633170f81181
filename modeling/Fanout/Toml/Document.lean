import Fanout.Toml.Moment
import Fanout.Toml.Number
import Fanout.Toml.Text
import Fanout.Toml.Tree

namespace Fanout.Toml

def depthLimit : Nat := 80

def isBareKeyChar (c : Char) : Bool := c.isAlphanum || c == '_' || c == '-'

def keyPart : Scan String := do
  match ← Scan.next with
  | some '"' => Scan.expect ['"']; lineText '"'
  | some '\'' => Scan.expect ['\'']; lineText '\''
  | _ => String.ofList <$> Scan.someOf isBareKeyChar

def keyPath : Scan (List String) := do
  let spaced : Scan String := do
    spaces
    let part ← keyPart
    spaces
    pure part
  let first ← spaced
  let others ← Scan.collect do
    if ← Scan.accept ['.'] then return some (← spaced)
    return none
  guard (others.length + 1 < depthLimit)
  return first :: others

def scalar : Scan Value := do
  match ← Scan.next with
  | some '"' => .text <$> text '"'
  | some '\'' => .text <$> text '\''
  | some 't' => Scan.expect "true".toList; pure (.boolean true)
  | some 'f' => Scan.expect "false".toList; pure (.boolean false)
  | _ => if beginsMoment (← get) then moment else number

def listOf (value : Scan Value) : Scan Value := do
  Scan.expect ['[']
  let items ← Scan.collect do
    gap
    if ← Scan.accept [']'] then return none
    let item ← value
    gap
    unless ← Scan.startsWith [']'] do Scan.expect [',']
    return some item
  return .list items

def pairOf (value : Scan Value) : Scan (List String × Value) := do
  let path ← keyPath
  Scan.expect ['=']
  spaces
  return (path, ← value)

/-- An inline table stays on its line and has no comma at its end. -/
def inlineTable (value : Scan Value) : Scan Value := do
  Scan.expect ['\x7b']
  spaces
  if ← Scan.accept ['\x7d'] then return .table []
  let first ← pairOf value
  let others ← Scan.collect do
    spaces
    if ← Scan.accept ['\x7d'] then return none
    Scan.expect [',']
    return some (← pairOf value)
  (Value.ofPairs (first :: others) : Option Value)

def value : Nat → Scan Value
  | 0 => scalar
  | depth + 1 => do
    match ← Scan.next with
    | some '[' => listOf (value depth)
    | some '\x7b' => inlineTable (value depth)
    | _ => scalar

inductive Line where
  | table (path : List String)
  | element (path : List String)
  | pair (path : List String) (v : Value)

def line : Scan Line := do
  if ← Scan.accept ['[', '['] then
    let path ← keyPath
    Scan.expect [']', ']']
    lineEnd
    return .element path
  else if ← Scan.accept ['['] then
    let path ← keyPath
    Scan.expect [']']
    lineEnd
    return .table path
  else
    let (path, v) ← pairOf (value (depthLimit - 1))
    lineEnd
    return .pair path v

def lines : Scan (List Line) := do
  discard (Scan.accept ['\ufeff'])
  Scan.collect do
    gap
    if (← get).isEmpty then return none
    return some (← line)

structure Draft where
  entries : Entries := []
  here : List String := []

namespace Draft

def openAt (step : String → Entries → Option Entries) (path : List String) (d : Draft) :
    Option Draft := do
  let key ← path.getLast?
  let entries ← d.entries.changeAt false (fun _ => step key) path.dropLast .header
  return { entries := entries, here := path }

def add (d : Draft) : Line → Option Draft
  | .table path => d.openAt Entries.openTable path
  | .element path => d.openAt Entries.openElement path
  | .pair path v => do
    return { d with entries := ← d.entries.changeAt false (Entries.addPair path v) d.here .header }

end Draft

def parse (source : String) : Option (List (String × Value)) := do
  let (lines, _) ← lines.run source.toList
  let draft ← lines.foldlM Draft.add {}
  return Node.valuesOf draft.entries

end Fanout.Toml
