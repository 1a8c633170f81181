namespace Fanout

structure Machine (σ τ : Type) where
  ready : σ → List τ
  run : τ → σ → σ
  clock : σ → Nat
  setClock : Nat → σ → σ
  alarms : σ → List Nat

namespace Machine

variable {σ τ : Type} [DecidableEq τ]

/-- Serves tasks until none can run, at most `fuel` turns. The tasks in `line` have been able to
run for longer than any other. -/
def settleFor (m : Machine σ τ) : Nat → List τ → σ → σ
  | 0, _, s => s
  | fuel + 1, line, s =>
    match line ++ (m.ready s).filter (· ∉ line) with
    | [] => s
    | t :: rest => settleFor m fuel rest (if t ∈ m.ready s then m.run t s else s)

def patience : Nat := 10000000

def settle (m : Machine σ τ) (s : σ) : σ := m.settleFor patience [] s

def nextAlarm (m : Machine σ τ) (limit : Nat) (s : σ) : Option Nat :=
  ((m.alarms s).filter fun t => m.clock s < t && t ≤ limit).min?

def waitFor (m : Machine σ τ) (done : σ → Bool) (limit : Nat) : Nat → σ → σ
  | 0, s => s
  | fuel + 1, s =>
    let s := m.settle s
    if done s then s
    else
      match m.nextAlarm limit s with
      | some t => waitFor m done limit fuel (m.setClock t s)
      | none => m.settle (m.setClock (max limit (m.clock s)) s)

/-- The clock moves at each turn, so the milliseconds until `limit` bound the turns. -/
def waitUntil (m : Machine σ τ) (done : σ → Bool) (limit : Nat) (s : σ) : σ :=
  m.waitFor done limit (limit + 1 - m.clock s) s

def pass (m : Machine σ τ) (ms : Nat) (s : σ) : σ :=
  m.waitUntil (fun _ => false) (m.clock s + ms) s

def hour : Nat := 3600000

/-- Waits for up to an hour and answers whether it was in vain. -/
def await (m : Machine σ τ) (done : σ → Bool) (s : σ) : σ × Bool :=
  let s := m.waitUntil done (m.clock s + hour) s
  (s, done s)

end Machine

end Fanout
