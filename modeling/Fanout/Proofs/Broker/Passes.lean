import Fanout.Proofs.Broker.AtOnce
import Fanout.Proofs.Broker.Seating

namespace Fanout

theorem Event.exists_isOf_false (e : Event) : ∃ i, e.isOf i = false := by
  cases own : e.isOf 0 with
  | false => exact ⟨0, own⟩
  | true => rcases isOf_iff.mp own with rfl | rfl <;> exact ⟨1, rfl⟩

namespace Broker

variable {b b' : Broker} {i j guard : Nat} {r : Request} {key : StreamKey} {f : StepwiseBroker}
  {s : Broker × Seating}

/-- What is known of an open by how far it has come. -/
inductive Fits (b : Broker) (i : Nat) : Option Seating → Prop
  | out : Fits b i none
  | going {r : Request} {guard pass : Nat} {action : TableAction}
      (seeking : b.Seeking i r guard pass action) : Fits b i (some (.going pass action))
  | ended {passes : Nat} {result : Attached} (ends : b.Concludes passes result)
      (beyond : b.Beyond i) : Fits b i (some (.ended passes result))

theorem Fits.loopMoves {state : Option Seating} (h : b.Fits i state) (orderly : b.Orderly)
    (loopMoves : LoopMoves i b b') (same : b'.openings[i]? = b.openings[i]?) : b'.Fits i state := by
  cases h with
  | out => exact .out
  | going seeking => exact .going (seeking.loopMoves orderly loopMoves same)
  | ended ends beyond =>
    obtain ⟨o, here, left⟩ := beyond
    exact .ended (ends.later loopMoves.down) ⟨o, same.trans here, left⟩

theorem Fits.out_of_missing {state : Option Seating} (h : b.Fits i state)
    (missing : b.openings[i]? = none) : state = none := by
  cases h with
  | out => rfl
  | going seeking =>
    rw [seeking.queued] at missing
    cases missing
  | ended ends beyond =>
    obtain ⟨o, here, -⟩ := beyond
    rw [here] at missing
    cases missing

theorem Replaces.loopMoves {m : Broker} (replaces : b.Replaces key m) : LoopMoves j b m := by
  cases replaces with
  | same => exact .refl
  | replaced old closed => exact .single ⟨.replace key old closed, fun _ _ there => there⟩

theorem Replaces.openings {m : Broker} (replaces : b.Replaces key m) :
    m.openings = b.openings := by
  cases replaces <;> rfl

theorem Replaces.keeps {m : Broker} {o : Opening} (replaces : b.Replaces key m)
    (here : b.openings[i]? = some o) (held : b.locks.holds guard = true) :
    m.openings[i]? = some o ∧ m.locks.holds guard = true := by
  cases replaces <;> exact ⟨here, held⟩

theorem Seats.loopMoves (seats : b.Seats r.key s)
    (here : b.openings[i]? = some ⟨r, .queued guard⟩) (held : b.locks.holds guard = true)
    (differs : j ≠ i) :
    LoopMoves j b (f.settle i r guard s).broker ∧
      (f.settle i r guard s).broker.openings[j]? = b.openings[j]? := by
  cases seats with
  | going seeks => exact ⟨.refl, rfl⟩
  | down few down =>
    exact ⟨openMoves_loopMoves differs (.single (.inr (.turnAway here))),
      conclude_other here differs .shutDown⟩
  | @seated passes pipe g place first seated few =>
    exact ⟨conclude_loopMoves differs here held seated,
      conclude_other (b := { b with registry := g }) here differs (.as place first)⟩

theorem Seats.matched (seats : b.Seats r.key s)
    (here : b.openings[i]? = some ⟨r, .queued guard⟩) (held : b.locks.holds guard = true) :
    (f.settle i r guard s).broker.Fits i (some s.2) := by
  cases seats with
  | going seeks => exact .going ⟨here, held, seeks⟩
  | down few down => exact .ended (.down few down) (conclude_beyond here .shutDown)
  | @seated passes pipe g place first seated few =>
    exact .ended (.seated few)
      (conclude_beyond (b := { b with registry := g }) here (.as place first))

end Broker

namespace StepwiseBroker

variable {f : StepwiseBroker} {i j guard : Nat} {r : Request}

structure Orderly (f : StepwiseBroker) : Prop where
  broker : f.broker.Orderly
  matched : ∀ i, f.broker.Fits i (f.seatings i)

/-- The steps that the open at `i` has before it at most, from when it has the lock. -/
def left (f : StepwiseBroker) (i : Nat) : Nat := (f.seatings i).elim 5 Seating.left

/-- What a step of the open at `i` can be. -/
inductive Runs (f : StepwiseBroker) (i : Nat) : StepwiseBroker → Prop
  | move {b : Broker} (apart : ∀ r guard, f.broker.openings[i]? ≠ some ⟨r, .queued guard⟩)
      (chain : Broker.Chain (·.OpenMove i ·) f.broker b) : Runs f i { f with broker := b }
  | wait {r : Request} {guard : Nat} (here : f.broker.openings[i]? = some ⟨r, .queued guard⟩)
      (held : f.broker.locks.holds guard = false) : Runs f i f
  | seek {r : Request} {guard : Nat} {m : Broker} {s : Broker × Seating}
      (here : f.broker.openings[i]? = some ⟨r, .queued guard⟩)
      (held : f.broker.locks.holds guard = true) (replaces : f.broker.Replaces r.key m)
      (seats : m.Seats r.key s) (nearer : s.2.left < f.left i) : Runs f i (f.settle i r guard s)

namespace Orderly

theorem initial {b : Broker} (orderly : b.Orderly) : Orderly ⟨b, fun _ => none⟩ :=
  ⟨orderly, fun _ => .out⟩

theorem runs_seek (h : f.Orderly) (here : f.broker.openings[i]? = some ⟨r, .queued guard⟩)
    (held : f.broker.locks.holds guard = true) : f.Runs i (f.seek i r guard) := by
  have matched := h.matched i
  have left (s : Seating) (there : f.seatings i = some s) : f.left i = s.left := by
    simp [StepwiseBroker.left, there]
  cases there : f.seatings i with
  | none =>
    have begun : (f.broker.beginPass 0).left < f.left i := by
      simp only [StepwiseBroker.left, there, Option.elim_none, Broker.beginPass]
      split <;> simp [Seating.left, TableAction.left]
    rw [seek_first (by simp [there])]
    exact .seek here held .same (Broker.beginPass_seats (.inl rfl)) begun
  | some s =>
    rw [there] at matched
    cases matched with
    | @going r' guard' pass action seeking =>
      have same : (⟨r', .queued guard'⟩ : Opening) = ⟨r, .queued guard⟩ :=
        Option.some.inj (seeking.queued.symm.trans here)
      cases same
      obtain ⟨⟨m, replaces, seats⟩, nearer⟩ := seeking.seeks.seats h.broker.listed
      rw [seek_going there]
      exact .seek here held replaces seats (by rw [left _ there]; exact nearer)
    | ended ends beyond => cases beyond.seeking here

theorem runs (h : f.Orderly) (i : Nat) : f.Runs i (f.step (.run (.opening i))) := by
  have coarse := Broker.step_chain (.run (.opening i)) h.broker.pulls
  cases here : f.broker.openings[i]? with
  | none =>
    rw [step_apart (by simp [here])]
    exact .move (by simp [here]) coarse
  | some o =>
    obtain ⟨r, state⟩ := o
    cases state with
    | starting =>
      have apart (r' : Request) (guard : Nat) :
          f.broker.openings[i]? ≠ some ⟨r', .queued guard⟩ := by simp [here]
      cases out : r.key.isBlank || f.broker.shutdown with
      | true =>
        rw [step_refused here out]
        exact .move apart coarse
      | false =>
        have counted : f.broker.Quiet { f.broker with opens := f.broker.opens + 1 } :=
          ⟨rfl, rfl, rfl, rfl, rfl, rfl, rfl, rfl, rfl, fun _ => rfl⟩
        rw [step_starting here out]
        exact .move apart (counted.chain.tail (.inr (.queue
          (b := { f.broker with opens := f.broker.opens + 1 }) here
          (Bool.or_eq_false_iff.mp out).2)))
    | queued guard =>
      cases held : f.broker.locks.holds guard with
      | true =>
        rw [step_queued here held]
        exact h.runs_seek here held
      | false =>
        have same : f.step (.run (.opening i)) = f := by simp [step, runOpen, here, held]
        rw [same]
        exact .wait here held
    | acquiring | disposing | refused | opened | abandoned =>
      rw [step_apart (by simp [here, OpenState.seeking])]
      exact .move (by simp [here]) coarse

theorem foreign (h : f.Orderly) {e : Event} (foreign : e.isOf j = false) :
    Broker.LoopMoves j f.broker (f.step e).broker ∧
      ((f.step e).broker.openings[j]? = f.broker.openings[j]? ∨
        f.broker.openings[j]? = none) ∧
      (f.step e).seatings j = f.seatings j := by
  have coarse (same : (f.step e).broker = f.broker.step e)
      (seatings : (f.step e).seatings j = f.seatings j) :
      Broker.LoopMoves j f.broker (f.step e).broker ∧
        ((f.step e).broker.openings[j]? = f.broker.openings[j]? ∨
          f.broker.openings[j]? = none) ∧
        (f.step e).seatings j = f.seatings j := by
    rw [same]
    exact ⟨Broker.step_loopMoves h.broker.pulls foreign,
      (Broker.openings_foreign h.broker.pulls foreign).imp_right And.left, seatings⟩
  cases e with
  | run task =>
    cases task with
    | opening i =>
      have differs : j ≠ i := fun same => by simp [Event.isOf, same] at foreign
      have runs := h.runs i
      generalize f.step (.run (.opening i)) = g at runs
      cases runs with
      | move apart chain =>
        exact ⟨Broker.openMoves_loopMoves differs chain,
          .inl (Broker.openMoves_other chain differs), rfl⟩
      | wait here held => exact ⟨.refl, .inl rfl, rfl⟩
      | @seek r guard m s here held replaces seats nearer =>
        obtain ⟨here, held⟩ := replaces.keeps here held
        obtain ⟨loopMoves, same⟩ := seats.loopMoves (f := f) here held differs
        refine ⟨replaces.loopMoves.trans loopMoves, .inl (by rw [same, replaces.openings]), ?_⟩
        rw [settle_seatings, Function.update_of_ne differs]
    | _ => exact coarse rfl rfl
  | abandon call =>
    cases call with
    | opening i =>
      have differs : j ≠ i := fun same => by simp [Event.isOf, same] at foreign
      exact coarse rfl (Function.update_of_ne differs _ _)
    | _ => exact coarse rfl rfl
  | _ => exact coarse rfl rfl

theorem own (h : f.Orderly) {e : Event} (own : e.isOf i = true) :
    (f.step e).broker.Fits i ((f.step e).seatings i) := by
  rcases Event.isOf_iff.mp own with rfl | rfl
  · have runs := h.runs i
    generalize f.step (.run (.opening i)) = g at runs
    cases runs with
    | move apart chain =>
      have matched := h.matched i
      generalize f.seatings i = state at matched
      cases matched with
      | out => exact .out
      | going seeking => exact absurd seeking.queued (apart _ _)
      | ended ends beyond =>
        have loopMoves := Broker.openMoves_loopMoves (Nat.succ_ne_self i) chain
        exact .ended (ends.later loopMoves.down) (beyond.openMoves chain)
    | wait here held => exact h.matched i
    | seek here held replaces seats nearer =>
      obtain ⟨here, held⟩ := replaces.keeps here held
      rw [settle_seatings, Function.update_self]
      exact seats.matched here held
  · rw [show (f.step (.abandon (.opening i))).seatings i = none from Function.update_self ..]
    exact .out

theorem step (h : f.Orderly) (e : Event) : (f.step e).Orderly := by
  obtain ⟨j, foreign⟩ := e.exists_isOf_false
  -- The broker stays in order in the eyes of anybody whose step this is not.
  refine ⟨(h.foreign foreign).1.orderly h.broker, fun i => ?_⟩
  cases own : e.isOf i with
  | true => exact h.own own
  | false =>
    obtain ⟨loopMoves, kept | missing, seatings⟩ := h.foreign own
    · rw [seatings]
      exact (h.matched i).loopMoves h.broker loopMoves kept
    · rw [seatings, (h.matched i).out_of_missing missing]
      exact .out

theorem after (h : f.Orderly) (events : List Event) : (f.after events).Orderly := by
  induction events generalizing f with
  | nil => exact h
  | cons e events ih => exact ih (h.step e)

theorem beyond_step (h : f.Orderly) (beyond : f.broker.Beyond i) (e : Event) :
    (f.step e).broker.Beyond i := by
  have ⟨o, here, away⟩ := beyond
  cases own : e.isOf i with
  | false =>
    obtain ⟨-, kept | missing, -⟩ := h.foreign own
    · exact ⟨o, kept.trans here, away⟩
    · rw [here] at missing
      cases missing
  | true =>
    rcases Event.isOf_iff.mp own with rfl | rfl
    · have runs := h.runs i
      generalize f.step (.run (.opening i)) = g at runs
      cases runs with
      | move _ chain => exact beyond.openMoves chain
      | wait queued | seek queued => cases beyond.seeking queued
    · exact ⟨_, Broker.getElem?_abandonOpen here, rfl⟩

theorem beyond_after (h : f.Orderly) (beyond : f.broker.Beyond i) (events : List Event) :
    (f.after events).broker.Beyond i := by
  induction events generalizing f with
  | nil => exact beyond
  | cons e events ih => exact ih (h.step e) (h.beyond_step beyond e)

theorem nearer (h : f.Orderly) {key : StreamKey} (heads : f.broker.Heads i key) (e : Event) :
    (f.step e).broker.Beyond i ∨
      (f.step e).broker.Heads i key ∧
        (f.step e).left i + (if e.isOf i then 1 else 0) ≤ f.left i := by
  obtain ⟨r, guard, here, held, rfl⟩ := heads
  cases own : e.isOf i with
  | false =>
    obtain ⟨loopMoves, kept | missing, seatings⟩ := h.foreign own
    · have seeking : f.broker.Seeking i r guard 1 .look := ⟨here, held, .first⟩
      have still := seeking.loopMoves h.broker loopMoves kept
      exact .inr ⟨⟨r, guard, still.queued, still.held, rfl⟩, by simp [left, seatings]⟩
    · rw [here] at missing
      cases missing
  | true =>
    rcases Event.isOf_iff.mp own with rfl | rfl
    · have runs := h.runs i
      generalize f.step (.run (.opening i)) = g at runs
      cases runs with
      | move apart chain => exact absurd here (apart _ _)
      | wait queued waits =>
        cases here.symm.trans queued
        rw [held] at waits
        cases waits
      | @seek r' guard' m s queued holds replaces seats closer =>
        cases here.symm.trans queued
        obtain ⟨here, held⟩ := replaces.keeps here held
        have matched := seats.matched (f := f) here held
        have left : (f.settle i r guard s).left i = s.2.left := by
          simp [StepwiseBroker.left, settle_seatings]
        cases seats with
        | going seeks =>
          refine .inr ⟨⟨r, guard, here, held, rfl⟩, ?_⟩
          rw [left, if_pos rfl]
          exact closer
        | down | seated =>
          cases matched with
          | ended ends beyond => exact .inl beyond
    · exact .inl ⟨_, Broker.getElem?_abandonOpen here, rfl⟩

theorem lingers (h : f.Orderly) {key : StreamKey} (heads : f.broker.Heads i key)
    (events : List Event) :
    (f.after events).broker.Beyond i ∨
      (f.after events).broker.Heads i key ∧
        (f.after events).left i + events.countP (Event.isOf i) ≤ f.left i := by
  induction events generalizing f with
  | nil => exact .inr ⟨heads, Nat.le_refl _⟩
  | cons e events ih =>
    rw [after_cons]
    rcases h.nearer heads e with beyond | ⟨heads, first⟩
    · exact .inl ((h.step e).beyond_after beyond events)
    · refine (ih (h.step e) heads).imp_right fun ⟨heads, rest⟩ => ⟨heads, ?_⟩
      rw [List.countP_cons]
      omega

theorem left_le (h : f.Orderly) : f.left i ≤ 5 := by
  have matched := h.matched i
  unfold left
  generalize f.seatings i = state at matched
  cases matched with
  | out => exact Nat.le_refl 5
  | ended => exact Nat.zero_le 5
  | going seeking => cases seeking.seeks <;> simp [Seating.left, TableAction.left]

theorem left_pos (h : f.Orderly) {key : StreamKey} (heads : f.broker.Heads i key) :
    0 < f.left i := by
  obtain ⟨r, guard, here, held, rfl⟩ := heads
  have matched := h.matched i
  unfold left
  generalize f.seatings i = state at matched
  cases matched with
  | out => exact Nat.succ_pos 4
  | going seeking => cases seeking.seeks <;> simp [Seating.left, TableAction.left]
  | ended ends beyond => cases beyond.seeking here

theorem leaves (h : f.Orderly) {key : StreamKey} (heads : f.broker.Heads i key)
    {events : List Event} (enough : 5 ≤ events.countP (Event.isOf i)) :
    (f.after events).broker.Beyond i := by
  rcases h.lingers heads events with beyond | ⟨still, less⟩
  · exact beyond
  · have positive := (h.after events).left_pos still
    have bound := h.left_le (i := i)
    omega

theorem seeking (h : f.Orderly) {pass : Nat} {action : TableAction}
    (going : f.seatings i = some (.going pass action)) :
    ∃ r guard, f.broker.Seeking i r guard pass action := by
  have matched := h.matched i
  rw [going] at matched
  cases matched with
  | going seeking => exact ⟨_, _, seeking⟩

end Orderly

/-- What an open in its loop can be sure of. -/
structure SeatsSoon (f : StepwiseBroker) (i : Nat) : Prop where
  /-- It has the lock of its key, and when it goes through the loop again the key has no relay. -/
  twice : ∀ pass action, f.seatings i = some (.going pass action) →
    ∃ key, f.broker.Heads i key ∧ (pass = 1 ∨ pass = 2 ∧ f.broker.registry.find? key = none)
  /-- The relay of the key has a seat for the viewer, or else has to be taken out. -/
  found : ∀ pass key k relay, f.seatings i = some (.going pass .look) → f.broker.Heads i key →
    f.broker.registry.find? key = some k → f.broker.registry.relays[k]? = some relay →
      (f.step (.run (.opening i))).seatings i =
        some (if relay.closed then .going pass (.replace k)
          else .ended pass (.as (k, relay.roster.seats + 1) relay.isEmpty))
  /-- A relay that has refused is closed. Unless somebody has taken it out, the open does so. -/
  refused : ∀ pass k key, f.seatings i = some (.going pass (.replace k)) → f.broker.Heads i key →
    pass = 1 ∧ (∃ s, f.broker.roster? k = some s ∧ s.closed = true) ∧
      (∀ j, f.broker.registry.find? key = some j → j = k) ∧
      (f.step (.run (.opening i))).broker.registry.find? key = none ∧
      (f.step (.run (.opening i))).seatings i =
        some (if f.broker.shutdown then .ended 1 .shutDown else .going 2 .look)
  /-- The relay that is made is registered and accepts the viewer as its first. -/
  made : ∀ pass r guard, f.seatings i = some (.going pass .make) →
    f.broker.openings[i]? = some ⟨r, .queued guard⟩ →
      ∃ m : Broker, m.registry.find? r.key = some f.broker.registry.relays.length ∧
        m.attached (f.broker.registry.relays.length, 1) = true ∧
        f.step (.run (.opening i)) =
          f.settle i r guard (m, .ended pass (.as (f.broker.registry.relays.length, 1) true))
  ended : ∀ passes result, f.seatings i = some (.ended passes result) →
    f.broker.Concludes passes result ∧ f.broker.Beyond i
  /-- Five steps of its own bring it out of the loop. -/
  leaves : ∀ key, f.broker.Heads i key → ∀ events : List Event,
    5 ≤ events.countP (Event.isOf i) → (f.after events).broker.Beyond i

theorem Orderly.seatsSoon (h : f.Orderly) (i : Nat) : f.SeatsSoon i where
  twice pass action going := by
    obtain ⟨r, guard, queued, held, seeks⟩ := h.seeking going
    refine ⟨r.key, ⟨r, guard, queued, held, rfl⟩, ?_⟩
    cases seeks with
    | first | replace => exact .inl rfl
    | again vacant => exact .inr ⟨rfl, vacant⟩
    | make few vacant => exact few.imp_right fun two => ⟨two, vacant⟩
  found pass key k relay going heads entry there := by
    obtain ⟨r, guard, here, held, rfl⟩ := heads
    rw [step_queued here held, seek_going going, settle_seatings, Function.update_self,
      Broker.seat_look_of_some entry]
    cases added : relay.add { capacity := max f.broker.config.pipeCapacity 1 } with
    | none =>
      have closed := Relay.add_eq_none_iff.mp added
      rw [Broker.offer_of_refused (by rw [there]; exact added), if_pos closed]
    | some answer =>
      obtain ⟨relay', id, first⟩ := answer
      obtain ⟨opened, rfl, rfl, -⟩ := Relay.roster_add added
      rw [Broker.offer_of_added (by rw [there]; exact added), if_neg (by simp [opened])]
  refused pass k key going heads := by
    obtain ⟨r, guard, here, held, rfl⟩ := heads
    obtain ⟨r', guard', queued, -, seeks⟩ := h.seeking going
    cases here.symm.trans queued
    cases seeks with
    | replace old closed only =>
      have vacant := Registry.find?_removeIfSame only
      refine ⟨rfl, ⟨_, old, closed⟩, only, ?_⟩
      rw [step_queued here held, seek_going going, settle_seatings, Function.update_self]
      simp only [Broker.seat, Broker.beginPass]
      split
      · exact ⟨vacant, trivial⟩
      · exact ⟨vacant, trivial⟩
  made pass r guard going here := by
    obtain ⟨r', guard', queued, held, seeks⟩ := h.seeking going
    cases here.symm.trans queued
    cases seeks with
    | make few vacant =>
      obtain ⟨g, made, seated⟩ := Broker.seat_make_seated vacant pass
      have seat := seated.seat h.broker.listed
      have listed := seat.listed h.broker.listed
      obtain ⟨s, there, named, opened, -, present, -⟩ := seat.self
      have registered := listed.find?_eq_some_iff.mpr (listed.registered _ s there opened)
      rw [named] at registered
      refine ⟨{ f.broker with registry := g }, registered, ?_, ?_⟩
      · exact Broker.attached_iff.mpr ⟨s, there, present⟩
      · rw [step_queued here held, seek_going going, made]
  ended passes result ended := by
    have matched := h.matched i
    rw [ended] at matched
    cases matched with
    | ended ends beyond => exact ⟨ends, beyond⟩
  leaves _ heads _ := h.leaves heads

/-- From any state that a broker gets into, and whatever comes between the waits of the loop, an
open that has the lock of its key goes through the loop twice at most. Left alone it attaches its
viewer as `attach` does, and a stepwise broker can do whatever a broker does. -/
theorem seats_within_two_passes (config : BrokerConfig) (limits : Limits) (before : List Event) :
    let start : StepwiseBroker := { broker := (Broker.new config limits).after before }
    (∀ events i, (start.after events).SeatsSoon i) ∧
      (∀ (events : List Event) (key : StreamKey) (n : Nat),
        let b := (start.after events).broker
        ∃ passes ≤ 2, Broker.seatFor key 4 (b, b.beginPass 0) =
          ((b.attach key (n + 2)).1, .ended passes (b.attach key (n + 2)).2)) ∧
      ∀ events, ∃ slow, (start.after slow).broker = start.broker.after events := by
  intro start
  have orderly : start.Orderly := .initial ((Broker.Orderly.initial config limits).after before)
  refine ⟨fun events i => (orderly.after events).seatsSoon i, ?_, ?_⟩
  · exact fun events key n => Broker.seatFor_eq_attach _ key n
  · exact exists_after fun i pass action => nofun

def relief : List Event :=
  [.request { key := ⟨"a"⟩, feed := .plain {}, limits := [0], token := 1 }, .run (.opening 1),
    .run (.opening 1), .turn 0 { ending := some (.returned (.ok 0)) }, .run (.opening 1), .sweep,
    .run (.opening 1), .run (.opening 1), .run (.opening 1)]

theorem seats_soon_in_relief :
    let start : StepwiseBroker := { broker := (Broker.new {} [.new "g" 2]).after (Broker.come 0) }
    (relief.inits.map fun events => (start.after events).seatings 1) =
        [none, none, none, some (.going 1 .look), some (.going 1 .look),
          some (.going 1 (.replace 0)), some (.going 1 (.replace 0)), some (.going 2 .look),
          some (.going 2 .make), some (.ended 2 (.as (1, 1) true))] ∧
      ∀ i, (start.after relief).SeatsSoon i :=
  ⟨by decide, (seats_within_two_passes {} [.new "g" 2] (Broker.come 0)).1 relief⟩

end StepwiseBroker

end Fanout
