import Fanout.Text.Contains

namespace Fanout

structure DirectoryEntry where
  name : String
  isFile : Bool := true
  modified : Int
deriving DecidableEq, Inhabited

namespace Retention

def logName : String := "tvrelay-proxy.log"

def isLog (e : DirectoryEntry) : Bool := e.isFile && Text.contains logName.toList e.name.toList

def signed (n : Nat) : Int := Int.bmod n (Nat.pow 2 64)

/-- No period is longer than this many days in either direction: their milliseconds have 64 bits. -/
def dayLimit : Nat := (Nat.pow 2 63 - 1) / 86400000

def newYear (year : Int) : Int :=
  let y := year - 1
  365 * y + Int.fdiv y 4 - Int.fdiv y 100 + Int.fdiv y 400 - 719162

def firstYear : Int := -262143

def lastYear : Int := 262142

def inCalendar (time : Int) : Bool :=
  decide (newYear firstYear * 86400000 ≤ time ∧ time < newYear (lastYear + 1) * 86400000)

def cutoff? (now : Int) (days : Nat) : Option Int :=
  let period := signed days
  let time := now - period * 86400000
  if period.natAbs ≤ dayLimit ∧ inCalendar time then some time else none

def isOld (cutoff : Int) (e : DirectoryEntry) : Bool := isLog e && e.modified < cutoff

def areDated (entries : List DirectoryEntry) : Bool :=
  entries.all fun e => !isLog e || inCalendar e.modified

/-- The entries that are left. There is no answer if the period is too long, or if the time of a log
file lies outside the calendar. -/
def clean? (now : Int) (days : Nat) (entries : List DirectoryEntry) :
    Option (List DirectoryEntry) :=
  (cutoff? now days).bind fun cutoff =>
    if areDated entries then some (entries.filter (!isOld cutoff ·)) else none

end Retention

inductive LogFolder where
  | absent
  | file
  | directory (entries : List DirectoryEntry)
deriving DecidableEq, Inhabited

inductive LogFailure where
  | notADirectory
  | periodTooLong
deriving DecidableEq, Inhabited

namespace LogFolder

def prepare (now : Int) (days : Nat) (folder : LogFolder) :
    Except LogFailure (List DirectoryEntry) :=
  let cleaned (entries : List DirectoryEntry) :=
    match Retention.clean? now days entries with
    | some left => .ok left
    | none => .error .periodTooLong
  match folder with
  | .file => .error .notADirectory
  | .absent => cleaned []
  | .directory entries => cleaned entries

end LogFolder

end Fanout
