import Fanout.Relay.Basic

namespace Fanout

structure Writer where
  written : Nat := 0
deriving DecidableEq, Inhabited

namespace Writer

def write (w : Writer) (r : Relay) (data : Bytes) : Writer × Relay × Nat :=
  let (r, n) := r.write data
  ({ w with written := w.written + n }, r, n)

def writeAll (w : Writer) (r : Relay) : List Bytes → Writer × Relay × List Nat
  | [] => (w, r, [])
  | data :: rest =>
    let (w, r, n) := w.write r data
    let (w, r, others) := w.writeAll r rest
    (w, r, n :: others)

end Writer

end Fanout
