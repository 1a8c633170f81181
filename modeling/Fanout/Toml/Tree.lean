import Fanout.Toml.Value

namespace Fanout.Toml

inductive Origin where
  | header
  | implied
  | dotted
deriving DecidableEq

inductive Node where
  | leaf (v : Value)
  | table (origin : Origin) (entries : List (String × Node))
  | tables (elements : List (List (String × Node)))

abbrev Entries := List (String × Node)

namespace Entries

def put (key : String) (node : Node) : Entries → Entries
  | [] => [(key, node)]
  | (k, n) :: rest => if k = key then (k, node) :: rest else (k, n) :: put key node rest

/-- Changes the table at the end of a path, whose missing tables are made on the way. A dotted
key enters no table that has a header. -/
def changeAt (dotted : Bool) (change : Origin → Entries → Option Entries) :
    List String → Origin → Entries → Option Entries
  | [], origin, entries => change origin entries
  | key :: path, _, entries =>
    match entries.lookup key with
    | none => do
      let origin := if dotted then .dotted else .implied
      return put key (.table origin (← changeAt dotted change path origin [])) entries
    | some (.leaf _) => none
    | some (.tables elements) => do
      let last ← changeAt dotted change path .header (← elements.getLast?)
      return put key (.tables (elements.dropLast ++ [last])) entries
    | some (.table origin inner) => do
      if dotted ∧ origin = .header then none
      else return put key (.table origin (← changeAt dotted change path origin inner)) entries

def openTable (key : String) (entries : Entries) : Option Entries :=
  match entries.lookup key with
  | none => some (put key (.table .header []) entries)
  | some (.table .implied inner) => some (put key (.table .header inner) entries)
  | some _ => none

def openElement (key : String) (entries : Entries) : Option Entries :=
  match entries.lookup key with
  | none => some (put key (.tables [[]]) entries)
  | some (.tables elements) => some (put key (.tables (elements ++ [[]])) entries)
  | some _ => none

/-- A new key. A table reached by a dotted key has to be made by dotted keys. -/
def addLeaf (dotted : Bool) (key : String) (v : Value) (origin : Origin) (entries : Entries) :
    Option Entries :=
  if decide (origin = .dotted) == dotted && (entries.lookup key).isNone then
    some (put key (.leaf v) entries)
  else none

def addPair (path : List String) (v : Value) (origin : Origin) (entries : Entries) :
    Option Entries := do
  let key ← path.getLast?
  let way := path.dropLast
  changeAt true (addLeaf (!way.isEmpty) key v) way origin entries

end Entries

mutual

def Node.toValue : Node → Value
  | .leaf v => v
  | .table _ entries => .table (Node.valuesOf entries)
  | .tables elements => .list (Node.tablesOf elements)

def Node.valuesOf : List (String × Node) → List (String × Value)
  | [] => []
  | (key, node) :: rest => (key, node.toValue) :: Node.valuesOf rest

def Node.tablesOf : List (List (String × Node)) → List Value
  | [] => []
  | entries :: rest => .table (Node.valuesOf entries) :: Node.tablesOf rest

end

def Value.ofPairs (pairs : List (List String × Value)) : Option Value := do
  let entries ← pairs.foldlM (fun entries (path, v) => Entries.addPair path v .header entries) []
  return .table (Node.valuesOf entries)

end Fanout.Toml
