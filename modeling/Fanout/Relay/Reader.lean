import Fanout.Relay.Sink

namespace Fanout

/-- How one sink is reached inside a larger state that comes to rest by itself. -/
structure SinkView (σ : Type) where
  settle : σ → σ
  get : σ → Option Sink
  update : (Sink → Sink) → σ → σ

namespace SinkView

variable {σ : Type}

def collect (v : SinkView σ) (most : Option Nat) : Nat → σ → Bytes → σ × Bytes × Bool
  | 0, s, got => (s, got, false)
  | fuel + 1, s, got =>
    if most.any (· ≤ got.length) then (s, got, false)
    else
      match v.get s with
      | none => (s, got, true)
      | some k =>
        let n := most.elim k.pipe.held.length (· - got.length)
        let (data, pipe) := k.pipe.take n
        if data.isEmpty then (s, got, k.pipe.atEnd)
        else
          let s := v.update (fun k => { k with pipe := pipe }) s
          collect v most fuel (v.settle s) (got ++ data)

/-- Reads what is available now, at most `most` bytes, and answers whether the stream ended. -/
def read (v : SinkView σ) (most : Option Nat) (s : σ) : σ × Bytes × Bool :=
  v.collect most 1000000 (v.settle s) []

end SinkView

end Fanout
