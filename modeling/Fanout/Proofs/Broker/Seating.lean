import Fanout.Proofs.Broker.LoopMove

namespace Fanout

def TableAction.left (pass : Nat) : TableAction → Nat
  | .look => 2 * (3 - pass)
  | .make => 1
  | .replace _ => 3

def Seating.left : Seating → Nat
  | .going pass action => action.left pass
  | .ended _ _ => 0

namespace Broker

variable {b b' m : Broker} {i j guard pass passes : Nat} {r : Request} {place : SinkPlace}
  {key : StreamKey} {action : TableAction} {result : Attached} {o : Opening}

/-- How an open stands that goes through its loop and has the lock of its key. -/
inductive Seeks (b : Broker) (key : StreamKey) : Nat → TableAction → Prop
  | first : Seeks b key 1 .look
  | again (vacant : b.registry.find? key = none) : Seeks b key 2 .look
  | make {pass : Nat} (few : pass = 1 ∨ pass = 2) (vacant : b.registry.find? key = none) :
      Seeks b key pass .make
  | replace {i : Nat} {s : Roster} (old : b.roster? i = some s) (closed : s.closed = true)
      (only : ∀ j, b.registry.find? key = some j → j = i) : Seeks b key 1 (.replace i)

/-- How the loop ends: with a seat, which the second pass gives at a relay of its own, or because
the broker is shut down. -/
inductive Concludes (b : Broker) : Nat → Attached → Prop
  | seated {passes : Nat} {place : SinkPlace} {first : Bool}
      (few : passes = 1 ∨ passes = 2 ∧ place.2 = 1 ∧ first = true) :
      Concludes b passes (.as place first)
  | down {passes : Nat} (few : passes ≤ 1) (down : b.shutdown = true) : Concludes b passes .shutDown

theorem Seeks.kept (h : b.Seeks key pass action)
    (entries : ∀ j, b'.registry.find? key = some j → b.registry.find? key = some j)
    (later : b.registry.Later b'.registry) : b'.Seeks key pass action := by
  have still (vacant : b.registry.find? key = none) : b'.registry.find? key = none := by
    by_contra entry
    obtain ⟨j, found⟩ := Option.ne_none_iff_exists'.mp entry
    rw [entries j found] at vacant
    cases vacant
  cases h with
  | first => exact .first
  | again vacant => exact .again (still vacant)
  | make few vacant => exact .make few (still vacant)
  | replace old closed only =>
    obtain ⟨s', new, goes⟩ := later _ _ old
    exact .replace new (goes.closed closed) fun j found => only j (entries j found)

theorem Concludes.later (h : b.Concludes passes result)
    (down : b.shutdown = true → b'.shutdown = true) : b'.Concludes passes result := by
  cases h with
  | seated few => exact .seated few
  | down few already => exact .down few (down already)

inductive Replaces (b : Broker) (key : StreamKey) : Broker → Prop
  | same : Replaces b key b
  | replaced {i : Nat} {s : Roster} (old : b.roster? i = some s) (closed : s.closed = true) :
      Replaces b key { b with registry := (b.registry.removeIfSame key i).1 }

/-- Where a step of the loop leads. -/
inductive Seats (b : Broker) (key : StreamKey) : Broker × Seating → Prop
  | going {pass : Nat} {action : TableAction} (seeks : b.Seeks key pass action) :
      Seats b key (b, .going pass action)
  | down {passes : Nat} (few : passes ≤ 1) (down : b.shutdown = true) :
      Seats b key (b, .ended passes .shutDown)
  | seated {passes : Nat} {pipe : Pipe} {g : Registry} {place : SinkPlace} {first : Bool}
      (seated : b.registry.Seated key pipe g place first)
      (few : passes = 1 ∨ passes = 2 ∧ place.2 = 1 ∧ first = true) :
      Seats b key ({ b with registry := g }, .ended passes (.as place first))

theorem beginPass_seats (few : passes = 0 ∨ passes = 1 ∧ b.registry.find? key = none) :
    b.Seats key (b, b.beginPass passes) := by
  unfold beginPass
  split
  · rename_i down
    exact .down (by omega) down
  · rcases few with rfl | ⟨rfl, vacant⟩
    · exact .going .first
    · exact .going (.again vacant)

theorem Seeks.seats (h : b.Seeks key pass action) (l : b.registry.Listed) :
    (∃ m, b.Replaces key m ∧ m.Seats key (b.seat key pass action)) ∧
      (b.seat key pass action).2.left < action.left pass := by
  cases h with
  | first =>
    cases entry : b.registry.find? key with
    | none =>
      rw [seat_look_of_none entry]
      exact ⟨⟨b, .same, .going (.make (.inl rfl) entry)⟩, by simp [Seating.left, TableAction.left]⟩
    | some k =>
      rw [seat_look_of_some entry]
      cases added : b.registry.relays[k]?.bind
          (·.add { capacity := max b.config.pipeCapacity 1 }) with
      | some answer =>
        obtain ⟨r', id, first⟩ := answer
        obtain ⟨relay, here, seated⟩ := Option.bind_eq_some_iff.mp added
        rw [offer_of_added added]
        exact ⟨⟨b, .same, .seated (.found entry here seated) (.inl rfl)⟩,
          by simp [Seating.left, TableAction.left]⟩
      | none =>
        obtain ⟨s, old, -⟩ := l.named _ (l.find?_eq_some_iff.mp entry)
        obtain ⟨relay, here, rfl⟩ := Registry.relay_of_roster? old
        rw [here] at added
        have closed : relay.closed = true := Relay.add_eq_none_iff.mp added
        have only (j : Nat) (found : b.registry.find? key = some j) : j = k :=
          Option.some.inj (found.symm.trans entry)
        rw [offer_of_refused (by rw [here]; exact added)]
        exact ⟨⟨b, .same, .going (.replace old closed only)⟩, by simp [Seating.left, TableAction.left]⟩
  | again vacant =>
    rw [seat_look_of_none vacant]
    exact ⟨⟨b, .same, .going (.make (.inr rfl) vacant)⟩, by simp [Seating.left, TableAction.left]⟩
  | make few vacant =>
    obtain ⟨g, made, seated⟩ := seat_make_seated vacant pass
    rw [made]
    exact ⟨⟨b, .same, .seated seated (few.imp_right fun two => ⟨two, rfl, rfl⟩)⟩,
      by simp [Seating.left, TableAction.left]⟩
  | @replace k s old closed only =>
    refine ⟨⟨_, .replaced old closed,
      beginPass_seats (.inr ⟨rfl, Registry.find?_removeIfSame only⟩)⟩, ?_⟩
    simp only [seat, beginPass]
    split <;> simp [Seating.left, TableAction.left]

/-- The open at `i` is in its loop, under the lock of its key. -/
structure Seeking (b : Broker) (i : Nat) (r : Request) (guard pass : Nat) (action : TableAction) :
    Prop where
  queued : b.openings[i]? = some ⟨r, .queued guard⟩
  held : b.locks.holds guard = true
  seeks : b.Seeks r.key pass action

theorem Seeking.loopMove (h : b.Seeking i r guard pass action) (orderly : b.Orderly)
    (loopMove : b.LoopMove b') (same : b'.openings[i]? = b.openings[i]?) :
    b'.Seeking i r guard pass action := by
  have queued := same.trans h.queued
  have mine : b.stake? (.opening i) = some ⟨r.key, guard, false⟩ := stake?_of_opening h.queued
  have still : b'.stake? (.opening i) = some ⟨r.key, guard, false⟩ := stake?_of_opening queued
  refine ⟨queued, orderly.locked.holds loopMove.shift mine still h.held, h.seeks.kept ?_
    (loopMove.onward orderly.listed).later⟩
  intro j found
  rcases loopMove.find? orderly.listed found with old | ⟨k, ⟨r', guard', there, held, key⟩, moved⟩
  · exact old
  · -- A new entry would come from another open, which had the lock at the same time.
    have theirs : b.stake? (.opening k) = some ⟨r'.key, guard', false⟩ := stake?_of_opening there
    have own := orderly.locked.exclusive theirs mine key held h.held
    exact absurd same (BrokerTask.opening.inj own ▸ moved)

theorem Seeking.loopMoves (h : b.Seeking i r guard pass action) (orderly : b.Orderly)
    (loopMoves : LoopMoves i b b') (same : b'.openings[i]? = b.openings[i]?) :
    b'.Seeking i r guard pass action := by
  -- Nobody lines up in these moves, so an open that is queued after them was so all along.
  have reached : b'.openings[i]? = some ⟨r, .queued guard⟩ → b'.Seeking i r guard pass action := by
    clear same
    induction loopMoves with
    | refl => exact fun _ => h
    | tail earlier last ih =>
      intro there
      have before := last.before r guard there
      exact (ih before).loopMove (LoopMoves.orderly earlier orderly) last.loopMove
        (there.trans before.symm)
  exact reached (same.trans h.queued)

def Beyond (b : Broker) (i : Nat) : Prop :=
  ∃ o, b.openings[i]? = some o ∧ o.state.seeking = false

theorem Beyond.seeking (h : b.Beyond i) (here : b.openings[i]? = some o) :
    o.state.seeking = false := by
  obtain ⟨o', there, beyond⟩ := h
  exact Option.some.inj (there.symm.trans here) ▸ beyond

theorem Beyond.openMoves (h : b.Beyond i) (chain : Chain (·.OpenMove i ·) b b') :
    b'.Beyond i := by
  induction chain with
  | refl => exact h
  | @tail m m' _ last ih =>
    rcases last with same | move
    · obtain ⟨o, old, beyond⟩ := ih
      exact ⟨o, same.openings ▸ old, beyond⟩
    · have apart {r : Request} {state : OpenState} (here : m.openings[i]? = some ⟨r, state⟩)
          (seeking : state.seeking = true) : False := by
        rw [ih.seeking here] at seeking
        cases seeking
      cases move with
      | refuse error here | queue here up | turnAway here | arrive deadline here held up seated
      | join here held up seated => exact (apart here rfl).elim
      | wait here poll | grant here up poll | deny here denied changed
      | denyGone here denied gone changed | dispose here changed =>
        exact ⟨_, getElem?_setOpening here _, rfl⟩

theorem conclude_beyond (here : b.openings[i]? = some o) (result : Attached) :
    (b.conclude i o.request guard result).Beyond i := by
  cases result with
  | shutDown | never => exact ⟨_, getElem?_setOpening (b := b.leave guard) here _, rfl⟩
  | as place first =>
    cases first with
    | false => exact ⟨_, getElem?_setOpening here _, rfl⟩
    | true =>
      refine Beyond.openMoves ?_ (conclude_moves here)
      exact ⟨_, getElem?_setOpening here _, rfl⟩

theorem openMoves_other (chain : Chain (·.OpenMove i ·) b b') (differs : j ≠ i) :
    b'.openings[j]? = b.openings[j]? := by
  induction chain with
  | refl => rfl
  | tail _ last ih =>
    rcases last with same | move
    · rw [same.openings, ih]
    · rw [OpenMove.other move differs, ih]

theorem conclude_other (here : b.openings[i]? = some o) (differs : j ≠ i) (result : Attached) :
    (b.conclude i o.request guard result).openings[j]? = b.openings[j]? := by
  cases result with
  | shutDown | never => exact opening_other _ _ differs
  | as place first =>
    cases first with
    | false => exact opening_other _ _ differs
    | true =>
      exact (openMoves_other (conclude_moves here) differs).trans (opening_other _ _ differs)

end Broker

end Fanout
