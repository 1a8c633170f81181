import Fanout.Text.Blank
import Fanout.Text.Numeral

namespace Fanout

inductive LogLevel where
  | off
  | error
  | warn
  | info
  | debug
  | trace
deriving DecidableEq, Inhabited

namespace LogLevel

def rank : LogLevel → Nat
  | .off => 0
  | .error => 1
  | .warn => 2
  | .info => 3
  | .debug => 4
  | .trace => 5

def all : List LogLevel := [.off, .error, .warn, .info, .debug, .trace]

def name : LogLevel → String
  | .off => "OFF"
  | .error => "ERROR"
  | .warn => "WARN"
  | .info => "INFO"
  | .debug => "DEBUG"
  | .trace => "TRACE"

def ofText? (text : String) : Option LogLevel :=
  all.find? fun level =>
    text.toUpper == level.name || Numeral.unsigned? (Nat.pow 2 64) text.toList == some level.rank

end LogLevel

structure LogLine where
  level : LogLevel
  target : String
  text : String
deriving DecidableEq, Inhabited

namespace LogLine

def toText (l : LogLine) : String := l.level.name ++ " " ++ l.target ++ ": " ++ l.text

end LogLine

structure LogRule where
  target : String
  level : LogLevel
deriving DecidableEq, Inhabited

abbrev LogFilter := List LogRule

inductive LogRuleError where
  | malformed
  | unknownLevel
deriving DecidableEq, Inhabited

def LogRuleError.message : LogRuleError → String
  | .malformed => "invalid filter directive"
  | .unknownLevel =>
    "error parsing level filter: expected one of \"off\", \"error\", \"warn\", \"info\", " ++
      "\"debug\", \"trace\", or a number 0-5"

namespace LogRule

def isFirstChar (c : Char) : Bool := c.isAlphanum || c == '_' || c == ':' || c == '-'

/-- A level, a target, or a target and its level. A target alone lets everything through. Blanks
count as characters of the target or level; in front of a rule with both they spoil it. -/
def ofText (text : String) : Except LogRuleError LogRule :=
  let target := text.toList.takeWhile (· ≠ '=')
  let isIndented := text.toList.head?.any Text.isBlank
  if !(Text.trimStart text.toList).head?.any isFirstChar then .error .malformed
  else
    match text.toList.drop target.length with
    | [] =>
      match LogLevel.ofText? text with
      | some level => .ok ⟨"", level⟩
      | none => .ok ⟨text, .trace⟩
    | _ :: level =>
      if isIndented then .error .unknownLevel
      else if level.isEmpty then .ok ⟨String.ofList target, .trace⟩
      else
        match LogLevel.ofText? (String.ofList level) with
        | some level => .ok ⟨String.ofList target, level⟩
        | none => .error .unknownLevel

def appliesTo (r : LogRule) (target : String) : Bool := r.target.toList.isPrefixOf target.toList

end LogRule

namespace LogFilter

def parts (text : String) : List String := (text.splitOn ",").filter (· ≠ "")

def ofRules (rules : List LogRule) : LogFilter := if rules.isEmpty then [⟨"", .error⟩] else rules

def ofText? (text : String) : Option LogFilter :=
  match (parts text).mapM LogRule.ofText with
  | .ok rules => some (ofRules rules)
  | .error _ => none

def ofText (text : String) : LogFilter :=
  ofRules ((parts text).filterMap fun part => (LogRule.ofText part).toOption)

def ignored (text : String) : List (String × LogRuleError) :=
  (parts text).filterMap fun part =>
    match LogRule.ofText part with
    | .ok _ => none
    | .error e => some (part, e)

/-- The last of the rules with the longest target that apply. -/
def deciding (f : LogFilter) (target : String) : Option LogRule :=
  f.foldl (fun best r =>
    if r.appliesTo target ∧ best.all (·.target.length ≤ r.target.length) then some r else best)
    none

def allows (f : LogFilter) (l : LogLine) : Bool :=
  (f.deciding l.target).any (l.level.rank ≤ ·.level.rank)

def directive (verbose : Bool) (level : Option String) : String :=
  if verbose then "debug"
  else
    match level.map Text.trimmed with
    | none | some "" => "info"
    | some level => level

end LogFilter

end Fanout
