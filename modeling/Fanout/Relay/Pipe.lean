import Fanout.Bytes

namespace Fanout

structure Pipe where
  capacity : Nat
  held : Bytes := []
  readerGone : Bool := false
  writerGone : Bool := false
deriving DecidableEq, Inhabited

namespace Pipe

def room (p : Pipe) : Nat := p.capacity - p.held.length

def accept (p : Pipe) (data : Bytes) : Pipe := { p with held := p.held ++ data.take p.room }

def refused (p : Pipe) (data : Bytes) : Bytes := data.drop p.room

def take (p : Pipe) (n : Nat) : Bytes × Pipe := (p.held.take n, { p with held := p.held.drop n })

def atEnd (p : Pipe) : Bool := p.held.isEmpty && p.writerGone

def dropReader (p : Pipe) : Pipe := { p with readerGone := true }

def dropWriter (p : Pipe) : Pipe := { p with writerGone := true }

theorem take_append (p : Pipe) (n : Nat) : (p.take n).1 ++ (p.take n).2.held = p.held := by
  simp [take]

end Pipe

end Fanout
