import Fanout.Proofs.Broker.Chain.Viewer
import Fanout.Proofs.Broker.Event

namespace Fanout

/-- What an open in its loop waits for the table for. -/
inductive TableAction where
  | look
  | make
  | replace (relay : Nat)
deriving DecidableEq

/-- How far an open has come that seats its viewer. -/
inductive Seating where
  | going (pass : Nat) (action : TableAction)
  | ended (passes : Nat) (result : Broker.Attached)
deriving DecidableEq

def OpenState.seeking : OpenState → Bool
  | .starting | .queued _ => true
  | _ => false

namespace Broker

def beginPass (b : Broker) (passes : Nat) : Seating :=
  if b.shutdown then .ended passes .shutDown else .going (passes + 1) .look

def offer (b : Broker) (pass i : Nat) : Broker × Seating :=
  match b.registry.relays[i]?.bind (·.add { capacity := max b.config.pipeCapacity 1 }) with
  | some (r, sink, first) =>
    ({ b with registry := b.registry.updateRelay i fun _ => r }, .ended pass (.as (i, sink) first))
  | none => (b, .going pass (.replace i))

def seat (b : Broker) (key : StreamKey) (pass : Nat) : TableAction → Broker × Seating
  | .look =>
    match b.registry.find? key with
    | some i => b.offer pass i
    | none => (b, .going pass .make)
  | .make =>
    { b with registry := (b.registry.getOrCreate key).1 }.offer pass
      (b.registry.getOrCreate key).2.1
  | .replace i =>
    let b := { b with registry := (b.registry.removeIfSame key i).1 }
    (b, b.beginPass pass)

/-- Leaves the loop. The shutdown may have come after the last look at it. -/
def conclude (b : Broker) (i : Nat) (r : Request) (guard : Nat) : Attached → Broker
  | .as place true =>
    if b.shutdown then b.refuse i r.key guard place .closed
    else
      b.acquire i r guard place
        { wanted := r.units, deadline := some (b.now + b.config.acquireTimeout) }
  | .as place false => b.finishOpen i r guard place
  | .shutDown | .never => (b.leave guard).setOpening i (.refused .closed)

section

variable {b : Broker} {key : StreamKey} {i guard : Nat} {r : Request} {place : SinkPlace}

theorem conclude_moves {o : Opening} (here : b.openings[i]? = some o) :
    Chain (·.OpenMove i ·)
      (b.setOpening i (.acquiring guard place
        { wanted := o.request.units, deadline := some (b.now + b.config.acquireTimeout) }))
      (b.conclude i o.request guard (.as place true)) := by
  simp only [conclude]
  split
  · rename_i down
    have denied : b.Denied
        { wanted := o.request.units, deadline := some (b.now + b.config.acquireTimeout) } b.limits
        .closed := .closed down rfl
    exact refuse_moves here denied
  · rename_i up
    exact acquire_moves here (by simpa using up)

theorem seat_look_of_none (vacant : b.registry.find? key = none) (pass : Nat) :
    b.seat key pass .look = (b, .going pass .make) := by
  simp only [seat, vacant]

theorem seat_look_of_some (found : b.registry.find? key = some i) (pass : Nat) :
    b.seat key pass .look = b.offer pass i := by
  simp only [seat, found]

theorem offer_of_added {r : Relay} {id : Nat} {first : Bool}
    (added : b.registry.relays[i]?.bind (·.add { capacity := max b.config.pipeCapacity 1 }) =
      some (r, id, first)) (pass : Nat) :
    b.offer pass i = ({ b with registry := b.registry.updateRelay i fun _ => r },
      .ended pass (.as (i, id) first)) := by
  simp only [offer, added]

theorem offer_of_refused
    (refused : b.registry.relays[i]?.bind (·.add { capacity := max b.config.pipeCapacity 1 }) =
      none) (pass : Nat) : b.offer pass i = (b, .going pass (.replace i)) := by
  simp only [offer, refused]

theorem seat_make (vacant : b.registry.find? key = none) (pass : Nat) :
    ∃ r', (Relay.new key b.registry.config).add { capacity := max b.config.pipeCapacity 1 } =
        some (r', 1, true) ∧
      b.seat key pass .make =
        ({ b with
          registry := { b.registry with
            relays := b.registry.relays ++ [r']
            table := b.registry.table ++ [(key, b.registry.relays.length)] } },
          .ended pass (.as (b.registry.relays.length, 1) true)) := by
  obtain ⟨r', added⟩ : ∃ r', (Relay.new key b.registry.config).add
      { capacity := max b.config.pipeCapacity 1 } = some (r', 1, true) := ⟨_, rfl⟩
  refine ⟨r', added, ?_⟩
  rw [← made_updateRelay vacant]
  simp [seat, offer, Registry.getOrCreate, vacant, added]

theorem seat_make_seated (vacant : b.registry.find? key = none) (pass : Nat) :
    ∃ g, b.seat key pass .make =
        ({ b with registry := g }, .ended pass (.as (b.registry.relays.length, 1) true)) ∧
      b.registry.Seated key { capacity := max b.config.pipeCapacity 1 } g
        (b.registry.relays.length, 1) true := by
  obtain ⟨r', added, made⟩ := seat_make vacant pass
  have seated := Registry.Seated.made (g := b.registry)
    (fun j r found _ => by rw [vacant] at found; cases found) added
  rw [Registry.erase_of_find?_none vacant] at seated
  exact ⟨_, made, seated⟩

end

end Broker

/-- A broker, and how far each open has come that seats its viewer. -/
structure StepwiseBroker where
  broker : Broker
  seatings : Nat → Option Seating := fun _ => none

namespace StepwiseBroker

def settle (f : StepwiseBroker) (i : Nat) (r : Request) (guard : Nat) :
    Broker × Seating → StepwiseBroker
  | (b, .going pass action) =>
    ⟨b, Function.update f.seatings i (some (.going pass action))⟩
  | (b, .ended passes result) =>
    ⟨b.conclude i r guard result, Function.update f.seatings i (some (.ended passes result))⟩

def seek (f : StepwiseBroker) (i : Nat) (r : Request) (guard : Nat) : StepwiseBroker :=
  match f.seatings i with
  | some (.going pass action) => f.settle i r guard (f.broker.seat r.key pass action)
  | _ => f.settle i r guard (f.broker, f.broker.beginPass 0)

def lineUp (f : StepwiseBroker) (i : Nat) (r : Request) : StepwiseBroker :=
  if r.key.isBlank || f.broker.shutdown then
    { f with broker := f.broker.step (.run (.opening i)) }
  else
    let (b, guard) := { f.broker with opens := f.broker.opens + 1 }.enter r.key
    { f with broker := b.setOpening i (.queued guard) }

def runOpen (f : StepwiseBroker) (i : Nat) : StepwiseBroker :=
  match f.broker.openings[i]? with
  | some ⟨r, .starting⟩ => f.lineUp i r
  | some ⟨r, .queued guard⟩ => if f.broker.locks.holds guard then f.seek i r guard else f
  | _ => { f with broker := f.broker.step (.run (.opening i)) }

/-- The steps of a broker, in which an open that seats its viewer has waits of its own. -/
def step (f : StepwiseBroker) : Event → StepwiseBroker
  | .run (.opening i) => f.runOpen i
  | .abandon (.opening i) =>
    ⟨f.broker.step (.abandon (.opening i)), Function.update f.seatings i none⟩
  | e => { f with broker := f.broker.step e }

def after (f : StepwiseBroker) (events : List Event) : StepwiseBroker := events.foldl step f

@[simp] theorem after_nil (f : StepwiseBroker) : f.after [] = f := rfl

@[simp] theorem after_cons (f : StepwiseBroker) (e : Event) (events : List Event) :
    f.after (e :: events) = (f.step e).after events := rfl

theorem after_append (f : StepwiseBroker) (first second : List Event) :
    f.after (first ++ second) = (f.after first).after second := List.foldl_append

section

variable {f : StepwiseBroker} {i guard : Nat} {r : Request}

theorem settle_seatings (s : Broker × Seating) :
    (f.settle i r guard s).seatings = Function.update f.seatings i (some s.2) := by
  rcases s with ⟨b, _ | _⟩ <;> rfl

theorem step_apart
    (apart : ∀ o, f.broker.openings[i]? = some o → o.state.seeking = false) :
    f.step (.run (.opening i)) = { f with broker := f.broker.step (.run (.opening i)) } := by
  simp only [step, runOpen]
  split
  · rename_i here
    cases apart _ here
  · rename_i here
    cases apart _ here
  · rfl

theorem step_refused (here : f.broker.openings[i]? = some ⟨r, .starting⟩)
    (out : (r.key.isBlank || f.broker.shutdown) = true) :
    f.step (.run (.opening i)) = { f with broker := f.broker.step (.run (.opening i)) } := by
  simp only [step, runOpen, here, lineUp, out, if_true]

theorem step_starting (here : f.broker.openings[i]? = some ⟨r, .starting⟩)
    (admitted : (r.key.isBlank || f.broker.shutdown) = false) :
    f.step (.run (.opening i)) =
      { f with
        broker := Broker.setOpening
          { f.broker with
            opens := f.broker.opens + 1
            locks := (f.broker.locks.enter r.key).1 } i
          (.queued (f.broker.locks.enter r.key).2) } := by
  simp only [step, runOpen, here, lineUp, admitted, Bool.false_eq_true, if_false]
  rfl

theorem step_queued (here : f.broker.openings[i]? = some ⟨r, .queued guard⟩)
    (held : f.broker.locks.holds guard = true) :
    f.step (.run (.opening i)) = f.seek i r guard := by
  simp only [step, runOpen, here, held, if_true]

theorem seek_going {pass : Nat} {action : TableAction}
    (going : f.seatings i = some (.going pass action)) :
    f.seek i r guard = f.settle i r guard (f.broker.seat r.key pass action) := by
  simp only [seek, going]

theorem seek_first (fresh : ∀ pass action, f.seatings i ≠ some (.going pass action)) :
    f.seek i r guard = f.settle i r guard (f.broker, f.broker.beginPass 0) := by
  unfold seek
  split
  · rename_i going
    exact absurd going (fresh _ _)
  · rfl

end

end StepwiseBroker

end Fanout
