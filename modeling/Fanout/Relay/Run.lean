import Fanout.Registry
import Fanout.Schedule

namespace Fanout

structure Timed (α : Type) where
  now : Nat := 0
  value : α
deriving Inhabited

inductive SinkTask where
  | delivery
  | closer
deriving DecidableEq, Inhabited

namespace Sink

def machine : Machine (Timed Sink) SinkTask where
  ready t :=
    (if t.value.ready then [.delivery] else []) ++
    (if t.value.closeReady t.now then [.closer] else [])
  run task t :=
    match task with
    | .delivery => { t with value := t.value.run }
    | .closer => { t with value := t.value.advanceClose t.now }
  clock := Timed.now
  setClock n t := { t with now := n }
  alarms t := t.value.alarm.toList

end Sink

namespace Registry

def sinksWhere (g : Registry) (p : Sink → Bool) : List (Nat × Nat) :=
  g.relays.zipIdx.flatMap fun (r, i) =>
    (r.viewers.filter (p ·.sink)).map fun v => (i, v.sink.id)

def alarms (g : Registry) : List Nat :=
  g.relays.flatMap fun r => r.viewers.filterMap (·.sink.alarm)

def machine : Machine (Timed Registry) (SinkTask × (Nat × Nat)) where
  ready t :=
    (t.value.sinksWhere (·.ready)).map ((.delivery, ·)) ++
    (t.value.sinksWhere (·.closeReady t.now)).map ((.closer, ·))
  run task t :=
    match task with
    | (.delivery, place) => { t with value := t.value.updateSink place Sink.run }
    | (.closer, place) => { t with value := t.value.updateSink place (·.advanceClose t.now) }
  clock := Timed.now
  setClock n t := { t with now := n }
  alarms t := t.value.alarms

end Registry

end Fanout
