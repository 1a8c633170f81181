import Fanout.Proofs.Sink.Event
import Mathlib.Algebra.GroupWithZero.Nat
import Mathlib.Data.List.Infix

namespace Fanout.Sink

/-- The part of a run that the delivery task answers for: the buffers it has put into the pipe as a
whole, the buffer it has in hand and the part of that which is in the pipe. -/
structure Progress where
  whole : List Bytes := []
  current : Option Bytes := none
  part : Bytes := []

namespace Progress

def bytes (p : Progress) : Bytes := p.whole.flatten ++ p.part

def buffers (p : Progress) : List Bytes := p.whole ++ p.current.toList

end Progress

/-- How the buffer in hand and the state of the delivery task belong together. -/
def InHand (task : Delivery) (failed canceled : Bool) (p : Progress) : Prop :=
  match task with
  | .writing size rest =>
    failed = false ∧ p.current = some (p.part ++ rest) ∧ size = (p.part ++ rest).length
  | .exited => p.current.isSome → failed = true ∨ canceled = true
  | _ => p.current.isSome → failed = true

/-- The books of a sink to which `offered` was offered and from whose pipe `taken` was taken. -/
structure Booked (s : Sink) (offered : List Bytes) (taken : Bytes) (p : Progress) : Prop where
  bytes : taken ++ s.pipe.held = p.bytes
  order : (p.buffers ++ s.queue).Sublist offered
  part : p.part <+: p.current.getD []
  inHand : InHand s.task s.failed s.canceled p
  delivered : s.delivered = (p.whole.map List.length).sum
  count : s.failed = false → offered.length = p.buffers.length + s.queue.length + s.dropped
  bound : s.queue.length ≤ s.depth
  room : 0 < s.depth
  recent : s.closed = false → s.queue <:+ offered
  cut : s.canceled = true ∨ s.owner ≠ .held → s.closed = true

variable {s : Sink} {offered : List Bytes} {taken : Bytes} {p : Progress}

theorem notify_cases (s : Sink) :
    s.task = .waiting false ∧ s.notify = { s with task := .waiting true } ∨
      s.notify = { s with stored := true } := by
  unfold notify
  split
  · rename_i waits
    exact .inl ⟨waits, rfl⟩
  · exact .inr rfl

theorem closed_closeQueue (s : Sink) : s.closeQueue.closed = true := by
  unfold closeQueue
  rcases notify_cases { s with closed := true } with ⟨-, same⟩ | same <;> rw [same]

namespace InHand

theorem empty_handed {task : Delivery} {canceled : Bool} (inHand : InHand task false canceled p)
    (idle : task = .looking) : p.current = none := by
  subst idle
  cases current : p.current with
  | none => rfl
  | some data => exact absurd (inHand (by rw [current]; rfl)) (by decide)

theorem canceled {task : Delivery} {failed before after : Bool}
    (inHand : InHand task failed before p) (kept : before = true → after = true) :
    InHand task failed after p := by
  cases task with
  | exited => exact fun some => (inHand some).imp_right kept
  | looking => exact inHand
  | pausing => exact inHand
  | waiting notified => exact inHand
  | writing size rest => exact inHand

end InHand

namespace Booked

theorem task (b : s.Booked offered taken p) (task : Delivery) (stored : Bool)
    (inHand : InHand task s.failed s.canceled p) :
    Booked { s with task := task, stored := stored } offered taken p :=
  ⟨b.bytes, b.order, b.part, inHand, b.delivered, b.count, b.bound, b.room, b.recent,
    b.cut⟩

theorem notify (b : s.Booked offered taken p) : s.notify.Booked offered taken p := by
  rcases s.notify_cases with ⟨waits, same⟩ | same
  · have inHand : InHand (.waiting true) s.failed s.canceled p := by
      have before := b.inHand
      rw [waits] at before
      exact before
    rw [same]
    exact b.task (.waiting true) s.stored inHand
  · rw [same]
    exact b.task s.task true b.inHand

theorem letGo (b : s.Booked offered taken p) (owner : SinkOwner) {closed canceled : Bool}
    (shut : s.closed = true → closed = true) (keep : s.canceled = true → canceled = true)
    (cut : canceled = true ∨ owner ≠ .held → closed = true) :
    Booked { s with closed := closed, canceled := canceled, owner := owner } offered taken p where
  bytes := b.bytes
  order := b.order
  part := b.part
  inHand := b.inHand.canceled keep
  delivered := b.delivered
  count := b.count
  bound := b.bound
  room := b.room
  recent opened := b.recent (by
    cases closed : s.closed with
    | false => rfl
    | true => exact absurd ((shut closed).symm.trans opened) (by decide))
  cut := cut

theorem closeQueue (b : s.Booked offered taken p) : s.closeQueue.Booked offered taken p :=
  Booked.notify (b.letGo s.owner (fun _ => rfl) (fun cut => cut) fun _ => rfl)

theorem dropReader (b : s.Booked offered taken p) : s.dropReader.Booked offered taken p :=
  ⟨b.bytes, b.order, b.part, b.inHand, b.delivered, b.count, b.bound, b.room, b.recent,
    b.cut⟩

theorem pipe (b : s.Booked offered taken p) {pipe : Pipe} {more : Bytes}
    (same : more ++ pipe.held = s.pipe.held) :
    Booked { s with pipe := pipe } offered (taken ++ more) p where
  bytes := by
    rw [List.append_assoc, same]
    exact b.bytes
  order := b.order
  part := b.part
  inHand := b.inHand
  delivered := b.delivered
  count := b.count
  bound := b.bound
  room := b.room
  recent := b.recent
  cut := b.cut

theorem exit (b : s.Booked offered taken p)
    (reason : p.current.isSome → s.failed = true ∨ s.canceled = true) :
    s.exit.Booked offered taken p :=
  ⟨b.bytes, b.order, b.part, reason, b.delivered, b.count, b.bound, b.room, b.recent,
    b.cut⟩

theorem refuse (b : s.Booked offered taken p) (data : Bytes) (closed : s.closed = true) :
    Booked { s with dropped := s.dropped + 1 } (offered ++ [data]) taken p where
  bytes := b.bytes
  order := b.order.trans (List.sublist_append_left offered [data])
  part := b.part
  inHand := b.inHand
  delivered := b.delivered
  count well := by
    have before := b.count well
    simp only [List.length_append, List.length_singleton]
    omega
  bound := b.bound
  room := b.room
  recent opened := absurd (closed.symm.trans opened) (by decide)
  cut := b.cut

theorem queue (b : s.Booked offered taken p) (data : Bytes) (front kept : List Bytes)
    (opened : s.closed = false) (split : s.queue = front ++ kept) (small : kept.length < s.depth) :
    Booked { s with queue := kept ++ [data], dropped := s.dropped + front.length }
      (offered ++ [data]) taken p where
  bytes := b.bytes
  order := by
    have rest : (p.buffers ++ kept).Sublist (p.buffers ++ s.queue) := by
      rw [split]
      exact (List.sublist_append_right front kept).append_left p.buffers
    rw [← List.append_assoc]
    exact (rest.trans b.order).append_right [data]
  part := b.part
  inHand := b.inHand
  delivered := b.delivered
  count well := by
    have before := b.count well
    rw [split] at before
    simp only [List.length_append, List.length_singleton] at before ⊢
    omega
  bound := by
    simp only [List.length_append, List.length_singleton]
    omega
  room := b.room
  recent _ := by
    obtain ⟨earlier, same⟩ := b.recent opened
    refine ⟨earlier ++ front, ?_⟩
    rw [← same, split]
    simp
  cut := b.cut

theorem enqueue (b : s.Booked offered taken p) (data : Bytes) :
    (s.enqueue data).1.Booked (offered ++ [data]) taken p := by
  unfold Sink.enqueue
  split
  · rename_i closed
    exact b.refuse data closed
  · rename_i opened
    have opened : s.closed = false := by simpa using opened
    split
    · rename_i full
      have room := b.room
      have bound := b.bound
      obtain ⟨first, rest, split⟩ : ∃ first rest, s.queue = first :: rest :=
        List.exists_cons_of_length_pos (by omega)
      rw [split, List.length_cons] at bound
      have small : rest.length < s.depth := by omega
      have queued := b.queue data [first] rest opened split small
      rw [split]
      exact queued.notify
    · rename_i space
      exact (b.queue data [] s.queue opened rfl (by omega)).notify

theorem bound_tail (b : s.Booked offered taken p) {data : Bytes} {rest : List Bytes}
    (queue : s.queue = data :: rest) : rest.length ≤ s.depth := by
  have bound := b.bound
  rw [queue, List.length_cons] at bound
  exact Nat.le_of_succ_le bound

theorem recent_tail (b : s.Booked offered taken p) {data : Bytes} {rest : List Bytes}
    (queue : s.queue = data :: rest) (opened : s.closed = false) : rest <:+ offered := by
  have recent := b.recent opened
  rw [queue] at recent
  exact (List.suffix_cons data rest).trans recent

theorem take (b : s.Booked offered taken p) {data : Bytes} {rest : List Bytes}
    (idle : s.task = .looking) (well : s.failed = false) (queue : s.queue = data :: rest) :
    Booked { s with queue := rest, task := .writing data.length data } offered taken
      { p with current := some data, part := [] } := by
  have inHand := b.inHand
  rw [well] at inHand
  have none : p.current = none := inHand.empty_handed idle
  have noPart : p.part = [] := by
    have part := b.part
    rw [none] at part
    exact List.prefix_nil.mp part
  constructor
  · rw [b.bytes]
    simp [Progress.bytes, noPart]
  · have order := b.order
    rw [queue] at order
    simpa [Progress.buffers, none] using order
  · exact List.nil_prefix
  · exact ⟨well, rfl, rfl⟩
  · exact b.delivered
  · intro _
    have before := b.count well
    rw [queue] at before
    simp only [Progress.buffers, none, Option.toList_none, Option.toList_some, List.append_nil,
      List.length_append, List.length_cons, List.length_nil] at before ⊢
    omega
  · exact b.bound_tail queue
  · exact b.room
  · exact b.recent_tail queue
  · exact b.cut

theorem discard (b : s.Booked offered taken p) {data : Bytes} {rest : List Bytes}
    (failed : s.failed = true) (queue : s.queue = data :: rest) :
    Booked { s with queue := rest } offered taken p := by
  constructor
  · exact b.bytes
  · have order := b.order
    rw [queue] at order
    exact ((List.sublist_cons_self data rest).append_left p.buffers).trans order
  · exact b.part
  · exact b.inHand
  · exact b.delivered
  · exact fun well => absurd (failed.symm.trans well) (by decide)
  · exact b.bound_tail queue
  · exact b.room
  · exact b.recent_tail queue
  · exact b.cut

theorem finish (b : s.Booked offered taken p) {size : Nat} (writes : s.task = .writing size []) :
    Booked { s with delivered := s.delivered + size, task := .looking } offered taken
      { whole := p.whole ++ [p.part] } := by
  have inHand := b.inHand
  rw [writes] at inHand
  obtain ⟨well, current, rfl⟩ := inHand
  rw [List.append_nil] at current
  have same : Progress.buffers { whole := p.whole ++ [p.part] } = p.buffers := by
    simp [Progress.buffers, current]
  constructor
  · rw [b.bytes]
    simp [Progress.bytes]
  · rw [same]
    exact b.order
  · exact List.nil_prefix
  · exact fun some => nomatch some
  · rw [b.delivered]
    simp
  · rw [same]
    exact b.count
  · exact b.bound
  · exact b.room
  · exact b.recent
  · exact b.cut

theorem fail (b : s.Booked offered taken p) :
    Booked { s with failed := true, task := .looking } offered taken p :=
  ⟨b.bytes, b.order, b.part, fun _ => rfl, b.delivered,
    (fun well => nomatch well), b.bound, b.room, b.recent,
    b.cut⟩

theorem accept (b : s.Booked offered taken p) {size : Nat} {rest : Bytes}
    (writes : s.task = .writing size rest) :
    Booked { s with pipe := s.pipe.accept rest, task := .writing size (s.pipe.refused rest) }
      offered taken { p with part := p.part ++ rest.take s.pipe.room } := by
  have inHand := b.inHand
  rw [writes] at inHand
  obtain ⟨well, current, rfl⟩ := inHand
  have whole : p.part ++ rest.take s.pipe.room ++ s.pipe.refused rest = p.part ++ rest := by
    simp [Pipe.refused]
  constructor
  · have before := b.bytes
    simp only [Progress.bytes] at before ⊢
    rw [Pipe.accept, ← List.append_assoc, before]
    simp
  · exact b.order
  · rw [current, Option.getD_some, ← whole]
    exact List.prefix_append _ _
  · refine ⟨well, ?_, ?_⟩
    · rw [whole]
      exact current
    · rw [whole]
  · exact b.delivered
  · exact b.count
  · exact b.bound
  · exact b.room
  · exact b.recent
  · exact b.cut

theorem step (b : s.Booked offered taken p) : ∃ p', s.step.Booked offered taken p' := by
  have inHand := b.inHand
  cases task : s.task with
  | looking =>
    rw [task] at inHand
    simp only [Sink.step, task]
    split
    · rename_i data rest queue
      split
      · rename_i failed
        exact ⟨_, task ▸ b.discard failed queue⟩
      · rename_i well
        exact ⟨_, b.take task (by simpa using well) queue⟩
    · split
      · exact ⟨p, b.exit fun some => .inl (inHand some)⟩
      · exact ⟨p, b.task .pausing s.stored inHand⟩
  | pausing =>
    rw [task] at inHand
    simp only [Sink.step, task]
    split
    · exact ⟨p, b.exit fun some => .inl (inHand some)⟩
    · split
      · exact ⟨p, b.task .looking false inHand⟩
      · exact ⟨p, b.task (.waiting false) s.stored inHand⟩
  | waiting notified =>
    rw [task] at inHand
    simp only [Sink.step, task]
    split
    · exact ⟨p, b.exit fun some => .inl (inHand some)⟩
    · split
      · exact ⟨p, b.task .looking s.stored inHand⟩
      · exact ⟨p, b⟩
  | writing size rest =>
    simp only [Sink.step, task]
    split
    · rename_i canceled
      exact ⟨p, b.exit fun _ => .inr canceled⟩
    · split
      · rename_i done
        have nil : rest = [] := List.isEmpty_iff.mp done
        exact ⟨_, b.finish (nil ▸ task)⟩
      · split
        · exact ⟨p, b.fail⟩
        · split
          · exact ⟨p, b⟩
          · exact ⟨_, b.accept task⟩
  | exited =>
    simp only [Sink.step, task]
    exact ⟨p, b⟩

theorem drop (b : s.Booked offered taken p) : s.drop.Booked offered taken p := by
  unfold Sink.drop
  split
  · exact b.closeQueue.letGo .released (fun shut => shut) (fun _ => rfl) fun _ => s.closed_closeQueue
  · exact b

theorem beginClose (b : s.Booked offered taken p) (grace now : Nat) :
    (s.beginClose grace now).Booked offered taken p := by
  have shut := s.closed_closeQueue
  unfold Sink.beginClose
  split
  · split
    · exact b.closeQueue.letGo .aborting (fun shut => shut) (fun _ => rfl) fun _ => shut
    · exact b.closeQueue.letGo _ (fun shut => shut) (fun cut => cut) fun _ => shut
  · exact b

theorem advanceClose (b : s.Booked offered taken p) (now : Nat) :
    (s.advanceClose now).Booked offered taken p := by
  unfold Sink.advanceClose
  split
  · rename_i flushing
    have shut : s.closed = true := b.cut (.inr (by rw [flushing]; exact nofun))
    split
    · exact b.letGo .released (fun shut => shut) (fun cut => cut) fun _ => shut
    · split
      · exact b.letGo .aborting (fun shut => shut) (fun _ => rfl) fun _ => shut
      · exact b
  · rename_i aborting
    have shut : s.closed = true := b.cut (.inr (by rw [aborting]; exact nofun))
    split
    · exact b.letGo .released (fun shut => shut) (fun cut => cut) fun _ => shut
    · exact b
  · exact b

theorem abandonClose (b : s.Booked offered taken p) : s.abandonClose.Booked offered taken p := by
  unfold Sink.abandonClose
  split
  · rename_i flushing
    have shut : s.closed = true := b.cut (.inr (by rw [flushing]; exact nofun))
    exact b.letGo .released (fun shut => shut) (fun cut => cut) fun _ => shut
  · rename_i aborting
    have shut : s.closed = true := b.cut (.inr (by rw [aborting]; exact nofun))
    exact b.letGo .released (fun shut => shut) (fun cut => cut) fun _ => shut
  · exact b

theorem handle (b : s.Booked offered taken p) (e : SinkEvent) :
    ∃ p', (s.handle e).Booked (offered ++ e.offered.toList) (taken ++ e.taken s) p' := by
  -- nothing is offered in an act, and nothing is taken out but by the reader
  have quiet {s' : Sink} {p' : Progress} (b' : s'.Booked offered taken p') :
      s'.Booked (offered ++ []) (taken ++ []) p' := by
    rwa [List.append_nil, List.append_nil]
  cases e with
  | enqueue data => exact ⟨p, (List.append_nil taken).symm ▸ b.enqueue data⟩
  | act a =>
    cases a with
    | read most => exact ⟨p, (List.append_nil offered).symm ▸ b.pipe (s.pipe.take_append most)⟩
    | deliver =>
      obtain ⟨p', onward⟩ := b.step
      exact ⟨p', quiet onward⟩
    | dropReader => exact ⟨p, quiet b.dropReader⟩
    | drop => exact ⟨p, quiet b.drop⟩
    | beginClose grace now => exact ⟨p, quiet (b.beginClose grace now)⟩
    | advanceClose now => exact ⟨p, quiet (b.advanceClose now)⟩
    | abandonClose => exact ⟨p, quiet b.abandonClose⟩

theorem after (b : s.Booked offered taken p) (events : List SinkEvent) :
    ∃ p', (s.after events).Booked (offered ++ offers events) (taken ++ s.taken events) p' := by
  induction events generalizing s offered taken p with
  | nil =>
    simp only [offers, List.filterMap_nil, Sink.taken, List.append_nil]
    exact ⟨p, b⟩
  | cons e rest ih =>
    obtain ⟨p', b'⟩ := b.handle e
    have onward := ih b'
    rw [List.append_assoc, List.append_assoc] at onward
    have offers_cons : offers (e :: rest) = e.offered.toList ++ offers rest := by
      cases h : e.offered <;> simp [offers, h]
    rw [after_cons, offers_cons]
    exact onward

theorem new (id depth capacity : Nat) : (Sink.new id depth { capacity }).Booked [] [] {} where
  bytes := rfl
  order := List.Sublist.refl []
  part := List.nil_prefix
  inHand := fun some => nomatch some
  delivered := rfl
  count _ := rfl
  bound := Nat.zero_le _
  room := Nat.lt_of_lt_of_le Nat.zero_lt_one (Nat.le_max_right depth 1)
  recent _ := List.suffix_rfl
  cut broken := by rcases broken with canceled | owner <;> contradiction

end Booked

theorem depth_notify (s : Sink) : s.notify.depth = s.depth := by
  rcases s.notify_cases with ⟨-, same⟩ | same <;> rw [same]

theorem depth_act (s : Sink) (a : SinkAct) : (s.act a).depth = s.depth := by
  have queueClosed : s.closeQueue.depth = s.depth := depth_notify _
  cases a with
  | deliver =>
    simp only [Sink.act, step]
    repeat' split
    all_goals rfl
  | read most => rfl
  | dropReader => rfl
  | drop =>
    simp only [Sink.act, drop]
    split
    · exact queueClosed
    · rfl
  | beginClose grace now =>
    simp only [Sink.act, beginClose]
    repeat' split
    · exact queueClosed
    · exact queueClosed
    · rfl
  | advanceClose now =>
    simp only [Sink.act, advanceClose]
    repeat' split
    all_goals rfl
  | abandonClose =>
    simp only [Sink.act, abandonClose]
    split <;> rfl

theorem depth_handle (s : Sink) (e : SinkEvent) : (s.handle e).depth = s.depth := by
  cases e with
  | enqueue data =>
    simp only [Sink.handle, enqueue]
    repeat' split
    · rfl
    · exact depth_notify _
    · exact depth_notify _
  | act a => exact s.depth_act a

theorem depth_after (s : Sink) (events : List SinkEvent) : (s.after events).depth = s.depth := by
  induction events generalizing s with
  | nil => rfl
  | cons e rest ih => rw [after_cons, ih, depth_handle]

theorem dropped_enqueue (s : Sink) (data : Bytes) :
    (s.enqueue data).1.dropped = s.dropped + if (s.enqueue data).2 then 0 else 1 := by
  have kept (s : Sink) : s.notify.dropped = s.dropped := by
    rcases s.notify_cases with ⟨-, same⟩ | same <;> rw [same]
  unfold enqueue
  split
  · rfl
  · split <;> exact kept _

def inDelivery (s : Sink) : Nat :=
  match s.task with
  | .writing _ _ => 1
  | _ => 0

namespace Booked

theorem current (b : s.Booked offered taken p) (size : Nat) (rest : Bytes)
    (writes : s.task = .writing size rest) : p.current = some (p.part ++ rest) := by
  have inHand := b.inHand
  rw [writes] at inHand
  exact inHand.2.1

/-- A buffer in hand is in delivery, or the delivery has failed at it or was cut short. -/
theorem reason (b : s.Booked offered taken p) (some : p.current.isSome) :
    s.inDelivery = 1 ∨ s.failed = true ∨ s.task = .exited ∧ s.canceled = true := by
  have inHand := b.inHand
  unfold inDelivery
  cases task : s.task with
  | writing size rest => exact .inl rfl
  | exited =>
    rw [task] at inHand
    exact .inr ((inHand some).imp_right fun canceled => ⟨rfl, canceled⟩)
  | looking =>
    rw [task] at inHand
    exact .inr (.inl (inHand some))
  | pausing =>
    rw [task] at inHand
    exact .inr (.inl (inHand some))
  | waiting notified =>
    rw [task] at inHand
    exact .inr (.inl (inHand some))

theorem inDelivery (b : s.Booked offered taken p) (well : s.failed = false)
    (opened : s.closed = false) : p.current.toList.length = s.inDelivery := by
  cases current : p.current with
  | some data =>
    have some : p.current.isSome := by rw [current]; rfl
    rcases b.reason some with writes | failed | ⟨-, canceled⟩
    · exact writes.symm
    · exact absurd (failed.symm.trans well) (by decide)
    · exact absurd ((b.cut (.inl canceled)).symm.trans opened) (by decide)
  | none =>
    unfold Sink.inDelivery
    cases task : s.task with
    | writing size rest => exact absurd (current.symm.trans (b.current size rest task)) nofun
    | _ => rfl

/-- If no buffer was lost, everything that was offered is still there. -/
theorem lossless (b : s.Booked offered taken p) (none : s.dropped = 0) (well : s.failed = false) :
    taken ++ s.pipe.held <+: offered.flatten := by
  have count := b.count well
  have all : p.buffers ++ s.queue = offered :=
    b.order.eq_of_length (by rw [List.length_append]; omega)
  have whole : p.bytes <+: p.buffers.flatten := by
    rw [Progress.bytes, Progress.buffers, List.flatten_append]
    refine (List.prefix_append_right_inj _).mpr (b.part.trans ?_)
    cases p.current with
    | none => exact List.prefix_rfl
    | some data => simp
  rw [b.bytes, ← all, List.flatten_append]
  exact whole.trans (List.prefix_append _ _)

end Booked

/-- In every run of a sink the pipe gets buffers in the order of the offers, each at most once and
as a whole, and then a part of at most one later buffer; what is queued comes after that. The queue
is bounded and holds the latest buffers, the counters are exact, and without a loss and without a
failure the pipe has got a prefix of everything that was offered. -/
theorem in_order (id depth capacity : Nat) (events : List SinkEvent) :
    let s := (Sink.new id depth { capacity }).after events
    let piped := (Sink.new id depth { capacity }).piped events
    let offered := offers events
    ∃ whole : List Bytes, ∃ current : Option Bytes, ∃ part : Bytes,
      (piped = whole.flatten ++ part ∧ part <+: current.getD [] ∧
        (whole ++ current.toList ++ s.queue).Sublist offered ∧
        (∀ size rest, s.task = .writing size rest → current = some (part ++ rest)) ∧
        (current.isSome →
          s.inDelivery = 1 ∨ s.failed = true ∨ s.task = .exited ∧ s.canceled = true)) ∧
      (s.queue.length ≤ max depth 1 ∧ (s.closed = false → s.queue <:+ offered)) ∧
      s.delivered = (whole.map List.length).sum ∧
      ((s.failed = false → s.closed = false →
          offered.length = whole.length + s.inDelivery + s.queue.length + s.dropped) ∧
        ∀ data, (s.enqueue data).1.dropped = s.dropped + if (s.enqueue data).2 then 0 else 1) ∧
      (s.dropped = 0 → s.failed = false → piped <+: offered.flatten) := by
  intro s piped offered
  obtain ⟨p, b⟩ := (Booked.new id depth capacity).after events
  rw [List.nil_append, List.nil_append] at b
  have bound := b.bound
  rw [depth_after] at bound
  refine ⟨p.whole, p.current, p.part, ⟨b.bytes, b.part, b.order, b.current, b.reason⟩, ⟨bound, b.recent⟩,
    b.delivered, ⟨fun well opened => ?_, s.dropped_enqueue⟩, b.lossless⟩
  have count := b.count well
  rw [Progress.buffers, List.length_append, b.inDelivery well opened] at count
  exact count

end Fanout.Sink
