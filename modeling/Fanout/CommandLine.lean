import Fanout.Net.Endpoint
import Fanout.Text.Numeral

namespace Fanout

structure Options where
  listen : Option Endpoint := none
  config : Option String := none
  maxFeeds : Option Nat := none
  verbose : Bool := false
  logDirectory : Option String := none
  retentionDays : Option Nat := none
deriving DecidableEq, Inhabited

inductive Invocation where
  | run (o : Options)
  | help
  | version
  | invalid
deriving DecidableEq, Inhabited

namespace CommandLine

inductive Switch where
  | listen
  | config
  | maxFeeds
  | verbose
  | logDirectory
  | retentionDays
  | help
  | version
deriving DecidableEq, Inhabited

namespace Switch

def ofLong? : String → Option Switch
  | "listen" => some .listen
  | "config" => some .config
  | "max-upstreams" => some .maxFeeds
  | "verbose" => some .verbose
  | "log-dir" => some .logDirectory
  | "log-retention-days" => some .retentionDays
  | "help" => some .help
  | "version" => some .version
  | _ => none

def ofShort? : Char → Option Switch
  | 'l' => some .listen
  | 'f' => some .config
  | 'm' => some .maxFeeds
  | 'v' => some .verbose
  | 'h' => some .help
  | 'V' => some .version
  | _ => none

def takesValue : Switch → Bool
  | .verbose | .help | .version => false
  | _ => true

end Switch

def path? (text : String) : Option String := if text = "" then none else some text

def once {α : Type} (old new : Option α) : Option (Option α) :=
  match old, new with
  | none, some a => some (some a)
  | _, _ => none

def setValue (o : Options) (s : Switch) (value : String) : Option Options :=
  match s with
  | .listen => (once o.listen (Endpoint.ofText? value)).map ({ o with listen := · })
  | .config => (once o.config (path? value)).map ({ o with config := · })
  | .maxFeeds =>
    (once o.maxFeeds (Numeral.signed? (Nat.pow 2 32) value.toList)).map ({ o with maxFeeds := · })
  | .logDirectory => (once o.logDirectory (path? value)).map ({ o with logDirectory := · })
  | .retentionDays =>
    (once o.retentionDays (Numeral.unsigned? (Nat.pow 2 64) value.toList)).map
      ({ o with retentionDays := · })
  | _ => none

structure Progress where
  options : Options := {}
  awaiting : Option Switch := none
  ended : Bool := false

namespace Progress

def give (p : Progress) (s : Switch) (value : List Char) : Except Invocation Progress :=
  match setValue p.options s (String.ofList value) with
  | some o => .ok { p with options := o, awaiting := none }
  | none => .error .invalid

def flip (p : Progress) : Switch → Except Invocation Progress
  | .verbose =>
    if p.options.verbose then .error .invalid
    else .ok { p with options := { p.options with verbose := true } }
  | .help => .error .help
  | .version => .error .version
  | _ => .error .invalid

/-- Short switches in one argument. The first that takes a value takes the rest for it. -/
def takeShorts (p : Progress) : List Char → Except Invocation Progress
  | [] => .ok p
  | c :: rest =>
    match Switch.ofShort? c with
    | none => .error .invalid
    | some s =>
      if s.takesValue then
        match rest with
        | [] => .ok { p with awaiting := some s }
        | '=' :: value => p.give s value
        | value => p.give s value
      else do takeShorts (← p.flip s) rest

def takeLong (p : Progress) (text : List Char) : Except Invocation Progress :=
  let name := text.takeWhile (· ≠ '=')
  match Switch.ofLong? (String.ofList name), text.drop name.length with
  | none, _ => .error .invalid
  | some s, [] => if s.takesValue then .ok { p with awaiting := some s } else p.flip s
  | some s, _ :: value => if s.takesValue then p.give s value else .error .invalid

def take (p : Progress) (arg : String) : Except Invocation Progress :=
  if p.ended then .error .invalid
  else
    match arg.toList, p.awaiting with
    | ['-'], some s => p.give s ['-']
    | '-' :: _, some _ => .error .invalid
    | value, some s => p.give s value
    | ['-', '-'], none => .ok { p with ended := true }
    | '-' :: '-' :: text, none => p.takeLong text
    | '-' :: c :: text, none => p.takeShorts (c :: text)
    | _, none => .error .invalid

end Progress

/-- Reads the arguments from the left; the first that decides ends the reading. -/
def parse (args : List String) : Invocation :=
  match args.foldlM Progress.take {} with
  | .error i => i
  | .ok p => if p.awaiting.isSome then .invalid else .run p.options

end CommandLine

end Fanout
