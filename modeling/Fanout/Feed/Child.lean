import Fanout.Bytes

namespace Fanout

inductive ExitStatus where
  | code (n : Nat)
  | signal (n : Nat) (dumpsCore : Bool)
deriving DecidableEq, Inhabited

namespace ExitStatus

def isSuccess : ExitStatus → Bool
  | .code n => n == 0
  | .signal _ _ => false

def signalNames : List String :=
  ["HUP", "INT", "QUIT", "ILL", "TRAP", "ABRT", "BUS", "FPE", "KILL", "USR1", "SEGV", "USR2",
    "PIPE", "ALRM", "TERM", "STKFLT", "CHLD", "CONT", "STOP", "TSTP", "TTIN", "TTOU", "URG",
    "XCPU", "XFSZ", "VTALRM", "PROF", "WINCH", "IO", "PWR", "SYS"]

def signalName? : Nat → Option String
  | 0 => none
  | n + 1 => signalNames[n]?

def text : ExitStatus → String
  | .code n => "exit status: " ++ toString n
  | .signal n dumpsCore =>
    "signal: " ++ toString n ++
      (match signalName? n with
      | some name => " (SIG" ++ name ++ ")"
      | none => "") ++
      if dumpsCore then " (core dumped)" else ""

end ExitStatus

inductive Happening where
  | output (data : Bytes)
  | pause (ms : Nat)
  | closeOutput
  | breakOutput (text : String)
deriving DecidableEq, Inhabited

structure Child where
  happenings : List Happening
  exit : Except String ExitStatus
deriving Inhabited

namespace Child

/-- Nothing more comes from a child that is killed, and unless it had come to its own end it ends by
the signal. -/
def kill (c : Child) : Child := if c.happenings.isEmpty then c else ⟨[], .ok (.signal 9 false)⟩

end Child

end Fanout
