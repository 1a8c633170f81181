import Fanout.Limit.Acquisition
import Fanout.Schedule

namespace Fanout

inductive Job where
  | starting (a : Acquisition)
  | waiting (a : Acquisition)
  | granted (held : List Units)
  | refused (error : LimitError)
  | gone
deriving Inhabited

structure LimitPool where
  now : Nat := 0
  limits : Limits := []
  jobs : List Job := []
deriving Inhabited

namespace LimitPool

def setJob (d : LimitPool) (i : Nat) (job : Job) : LimitPool :=
  { d with jobs := d.jobs.modify i fun _ => job }

def start (d : LimitPool) (wanted : List Units) (timeout : Option Nat) : LimitPool × Nat :=
  let a : Acquisition := { wanted := wanted, deadline := timeout.map (d.now + ·) }
  ({ d with jobs := d.jobs ++ [.starting a] }, d.jobs.length)

def jobReady (d : LimitPool) : Job → Bool
  | .starting _ => true
  | .waiting a => a.ready d.limits d.now
  | _ => false

def poll (d : LimitPool) (i : Nat) (a : Acquisition) : LimitPool :=
  match a.poll d.limits d.now with
  | (limits, .waiting a) => { d with limits := limits }.setJob i (.waiting a)
  | (limits, .granted held) => { d with limits := limits }.setJob i (.granted held)
  | (limits, .refused error) => { d with limits := limits }.setJob i (.refused error)

def run (d : LimitPool) (i : Nat) : LimitPool :=
  match d.jobs[i]? with
  | some (.starting a) | some (.waiting a) => d.poll i a
  | _ => d

/-- Gives back what a job holds, or gives it up. -/
def release (d : LimitPool) (i : Nat) : LimitPool :=
  match d.jobs[i]? with
  | some (.waiting a) => { d with limits := a.abandon d.limits }.setJob i .gone
  | some (.granted held) => { d with limits := Limits.releaseAll d.limits held }.setJob i .gone
  | some _ => d.setJob i .gone
  | none => d

def tryAcquire (d : LimitPool) (limit weight : Nat) : Except LimitError (LimitPool × Nat) :=
  match d.limits[limit]? with
  | none => .error .exhausted
  | some l =>
    match l.tryAcquire weight with
    | .error e => .error e
    | .ok l =>
      .ok ({ d with
          limits := d.limits.set limit l
          jobs := d.jobs ++ [.granted [⟨limit, weight⟩]] },
        d.jobs.length)

def isPending (d : LimitPool) (i : Nat) : Bool :=
  match d.jobs[i]? with
  | some (.starting _) | some (.waiting _) => true
  | _ => false

def machine : Machine LimitPool Nat where
  ready d := (d.jobs.zipIdx.filter (d.jobReady ·.1)).map (·.2)
  run i d := d.run i
  clock := now
  setClock t d := { d with now := t }
  alarms d := d.jobs.filterMap fun job =>
    match job with
    | .waiting a => a.deadline
    | _ => none

end LimitPool

end Fanout
