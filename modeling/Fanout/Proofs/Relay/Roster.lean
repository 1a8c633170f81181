import Fanout.Registry
import Mathlib.Tactic.ByContra

namespace Fanout

namespace Sink

variable (s : Sink)

@[simp] theorem notify_id : s.notify.id = s.id := by
  unfold notify
  split <;> rfl

@[simp] theorem enqueue_id (data : Bytes) : (s.enqueue data).1.id = s.id := by
  unfold enqueue
  split
  · rfl
  · split <;> simp

@[simp] theorem exit_id : s.exit.id = s.id := rfl

@[simp] theorem step_id : s.step.id = s.id := by
  unfold step
  repeat' split
  all_goals rfl

theorem runFor_id (n : Nat) : (runFor n s).id = s.id := by
  induction n generalizing s with
  | zero => rfl
  | succ n ih =>
    unfold runFor
    split
    · rw [ih, step_id]
    · rfl

@[simp] theorem run_id : s.run.id = s.id := runFor_id s _

@[simp] theorem dropReader_id : s.dropReader.id = s.id := rfl

@[simp] theorem closeQueue_id : s.closeQueue.id = s.id := by simp [closeQueue]

@[simp] theorem drop_id : s.drop.id = s.id := by
  unfold drop
  split <;> simp

@[simp] theorem beginClose_id (grace now : Nat) : (s.beginClose grace now).id = s.id := by
  unfold beginClose
  split
  · split <;> simp
  · rfl

@[simp] theorem advanceClose_id (now : Nat) : (s.advanceClose now).id = s.id := by
  unfold advanceClose
  repeat' split
  all_goals rfl

@[simp] theorem abandonClose_id : s.abandonClose.id = s.id := by
  unfold abandonClose
  split <;> rfl

end Sink

def Signal.fire (s : Signal) : Signal := if s = .pending then .fired else s

@[simp] theorem Signal.fire_fire (s : Signal) : s.fire.fire = s.fire := by cases s <;> rfl

structure Roster where
  key : StreamKey
  closed : Bool
  present : List Nat
  seats : Nat
  signals : List Signal

namespace Roster

def seat (s : Roster) : Roster :=
  { s with present := s.present ++ [s.seats + 1], seats := s.seats + 1 }

/-- A viewer is detached; the last one to go fires the subscriptions. -/
def unseat (s : Roster) (id : Nat) : Roster :=
  { s with
    present := s.present.filter (· != id)
    signals := if s.present.filter (· != id) = [] then s.signals.map Signal.fire else s.signals }

def shut (s : Roster) : Roster :=
  { s with closed := true, present := [], signals := s.signals.map Signal.fire }

def retire (s : Roster) : Roster := { s with closed := true }

def retireIfEmpty (s : Roster) : Roster :=
  if s.closed = false ∧ s.present = [] then s.shut else s

/-- A viewer is detached, if still attached, and a relay that is empty then is retired. -/
def depart (s : Roster) (id : Nat) : Roster :=
  if id ∈ s.present then (s.unseat id).retireIfEmpty else s.retireIfEmpty

def subscribe (s : Roster) : Roster :=
  { s with signals := s.signals ++ [if s.present = [] then .fired else .pending] }

def withdraw (s : Roster) : Nat → Roster
  | 0 => s
  | n + 1 =>
    { s with signals := s.signals.modify n fun t => if t = .pending then .withdrawn else t }

@[simp] theorem shut_shut (s : Roster) : s.shut.shut = s.shut := by
  simp [shut, Function.comp_def]

theorem mem_unseat {s : Roster} {id other : Nat} :
    other ∈ (s.unseat id).present ↔ other ∈ s.present ∧ other ≠ id := by
  simp [unseat]

theorem retireIfEmpty_of_closed {s : Roster} (closed : s.closed = true) : s.retireIfEmpty = s := by
  unfold retireIfEmpty
  rw [if_neg]
  rintro ⟨opened, -⟩
  rw [closed] at opened
  cases opened

theorem retireIfEmpty_of_present {s : Roster} (some : s.present ≠ []) : s.retireIfEmpty = s := by
  unfold retireIfEmpty
  rw [if_neg]
  exact fun h => some h.2

theorem unseat_retireIfEmpty {s : Roster} {id : Nat} (alone : (s.unseat id).present = []) :
    (s.unseat id).retireIfEmpty = s.shut := by
  have none : s.present.filter (· != id) = [] := alone
  cases closed : s.closed with
  | true =>
    rw [retireIfEmpty_of_closed (s := s.unseat id) closed]
    simp [unseat, none, shut, closed]
  | false =>
    unfold retireIfEmpty
    rw [if_pos ⟨closed, alone⟩]
    simp [unseat, none, shut, Function.comp_def]

theorem depart_cases (s : Roster) (id : Nat) :
    (s.depart id = s.shut ∧ ∀ x ∈ s.present, x = id) ∨
      (s.depart id = s ∧ id ∉ s.present ∧ (s.present = [] → s.closed = true)) ∨
      (s.depart id = s.unseat id ∧ id ∈ s.present ∧ (s.unseat id).present ≠ []) := by
  unfold depart
  by_cases here : id ∈ s.present
  · rw [if_pos here]
    by_cases alone : (s.unseat id).present = []
    · refine .inl ⟨unseat_retireIfEmpty alone, fun x member => ?_⟩
      by_contra differs
      have stays := mem_unseat.mpr ⟨member, differs⟩
      rw [alone] at stays
      cases stays
    · exact .inr (.inr ⟨retireIfEmpty_of_present alone, here, alone⟩)
  · rw [if_neg here]
    by_cases empty : s.closed = false ∧ s.present = []
    · refine .inl ⟨by rw [retireIfEmpty, if_pos empty], ?_⟩
      rw [empty.2]
      simp
    · refine .inr (.inl ⟨by rw [retireIfEmpty, if_neg empty], here, fun none => ?_⟩)
      by_contra opened
      exact empty ⟨by simpa using opened, none⟩

theorem not_mem_depart (s : Roster) (id : Nat) : id ∉ (s.depart id).present := by
  rcases s.depart_cases id with ⟨shut, -⟩ | ⟨same, gone, -⟩ | ⟨left, -, -⟩
  · rw [shut]
    exact List.not_mem_nil
  · rw [same]
    exact gone
  · rw [left]
    exact fun member => (mem_unseat.mp member).2 rfl

end Roster

namespace Relay

variable {r r' : Relay}

def roster (r : Relay) : Roster :=
  ⟨r.key, r.closed, r.attached.map (·.sink.id), r.viewers.length, r.signals⟩

theorem isEmpty_iff : r.isEmpty = true ↔ r.roster.present = [] := by
  simp [isEmpty, roster]

theorem isAttached_iff {id : Nat} : r.isAttached id = true ↔ id ∈ r.roster.present := by
  simp [isAttached, roster]

theorem attached_map (f : Viewer → Viewer) (attached : ∀ v, (f v).attached = v.attached)
    (id : ∀ v, (f v).sink.id = v.sink.id) (viewers : List Viewer) :
    ((viewers.map f).filter (·.attached)).map (·.sink.id) =
      (viewers.filter (·.attached)).map (·.sink.id) := by
  induction viewers with
  | nil => rfl
  | cons v rest ih => cases h : v.attached <;> simp [attached, id, h, ih]

@[simp] theorem roster_new (key : StreamKey) (config : RelayConfig) :
    (Relay.new key config).roster = ⟨key, false, [], 0, []⟩ := rfl

@[simp] theorem roster_updateSink (id : Nat) {f : Sink → Sink} (keeps : ∀ s, (f s).id = s.id) :
    (r.updateSink id f).roster = r.roster := by
  have same := attached_map (fun v => if v.sink.id = id then { v with sink := f v.sink } else v)
    (by intro v; split <;> rfl) (by intro v; split <;> simp [keeps]) r.viewers
  simp only [roster, attached, updateSink, updateViewer, List.length_map, same]

@[simp] theorem roster_write (data : Bytes) : (r.write data).1.roster = r.roster := by
  have same := attached_map (Viewer.offer data)
    (by intro v; unfold Viewer.offer; split <;> rfl)
    (by intro v; unfold Viewer.offer; split <;> simp) r.viewers
  unfold write
  split
  · rfl
  · simp only [roster, attached, List.length_map, same]

@[simp] theorem roster_writeAll (chunks : List Bytes) :
    (r.writeAll chunks).1.roster = r.roster := by
  induction chunks generalizing r with
  | nil => rfl
  | cons data rest ih => simp [writeAll, ih]

theorem add_eq_none_iff {pipe : Pipe} : r.add pipe = none ↔ r.closed = true := by
  cases h : r.closed <;> simp [add, h]

theorem roster_add {pipe : Pipe} {id : Nat} {first : Bool}
    (h : r.add pipe = some (r', id, first)) :
    r.closed = false ∧ id = r.roster.seats + 1 ∧ first = r.isEmpty ∧
      r'.roster = r.roster.seat := by
  cases opened : r.closed with
  | true => simp [add, opened] at h
  | false =>
    simp only [add, opened, Bool.false_eq_true, if_false, Option.some.injEq, Prod.mk.injEq] at h
    obtain ⟨rfl, rfl, rfl⟩ := h
    refine ⟨rfl, rfl, rfl, ?_⟩
    simp only [roster, attached, Roster.seat, List.filter_append, List.map_append,
      List.length_append, List.length_singleton, Roster.mk.injEq, List.append_cancel_left_eq,
      true_and, and_true]
    split <;> simp [Sink.new, opened]

theorem detach_eq_none_iff {id : Nat} : r.detach id = none ↔ id ∉ r.roster.present := by
  rw [← isAttached_iff]
  cases h : r.isAttached id <;> simp [detach, h]

theorem present_detach (viewers : List Viewer) (id : Nat) :
    ((viewers.map fun v => if v.sink.id = id then { v with attached := false } else v).filter
        (·.attached)).map (·.sink.id) =
      ((viewers.filter (·.attached)).map (·.sink.id)).filter (· != id) := by
  induction viewers with
  | nil => rfl
  | cons v rest ih =>
    by_cases same : v.sink.id = id <;> cases h : v.attached <;>
      simp [same, h, ih]

theorem roster_detach {id : Nat} (h : r.detach id = some r') :
    id ∈ r.roster.present ∧ r'.roster = r.roster.unseat id := by
  cases here : r.isAttached id with
  | false => simp [detach, here] at h
  | true =>
    refine ⟨isAttached_iff.mp here, ?_⟩
    simp only [detach, here, if_true, Option.some.injEq] at h
    have gone := present_detach r.viewers id
    have empty := isEmpty_iff (r := r.updateViewer id fun v => { v with attached := false })
    simp only [roster, attached, updateViewer, gone] at empty
    subst h
    unfold Roster.unseat
    split
    · rename_i last
      have none := empty.mp last
      simp [fire, roster, attached, updateViewer, gone, none, Signal.fire]
    · rename_i more
      have some := mt empty.mpr more
      simp [roster, attached, updateViewer, gone, some]

@[simp] theorem roster_retire : r.retire.roster = r.roster.retire := rfl

@[simp] theorem roster_withdraw (n : Nat) : (r.withdraw n).roster = r.roster.withdraw n := by
  cases n <;> rfl

theorem roster_retireIfEmpty :
    r.retireIfEmpty.1.roster = r.roster.retireIfEmpty ∧
      r.retireIfEmpty.2 = r.roster.retireIfEmpty.closed := by
  have empty := isEmpty_iff (r := r)
  cases closed : r.closed with
  | true => simp [retireIfEmpty, Roster.retireIfEmpty, roster, closed]
  | false =>
    cases h : r.isEmpty with
    | true =>
      have none : r.attached.map (·.sink.id) = [] := empty.mp h
      simp only [retireIfEmpty, Roster.retireIfEmpty, roster, closed, h, none, Bool.false_eq_true,
        if_false, if_true, and_self]
      refine ⟨?_, rfl⟩
      simpa [fire, Roster.shut, Signal.fire, attached] using none
    | false =>
      have some : r.attached.map (·.sink.id) ≠ [] := fun none => by
        rw [empty.mpr none] at h
        cases h
      simp [retireIfEmpty, Roster.retireIfEmpty, roster, closed, h, some]

theorem viewers_retireIfEmpty (r : Relay) : r.retireIfEmpty.1.viewers = r.viewers := by
  unfold retireIfEmpty
  repeat' split
  all_goals rfl

theorem present_beginClose (grace now : Nat) (viewers : List Viewer) :
    (viewers.map (Viewer.beginClose grace now)).filter (·.attached) = [] := by
  simp only [List.filter_eq_nil_iff, List.mem_map]
  rintro _ ⟨v, -, rfl⟩
  unfold Viewer.beginClose
  split <;> simp_all

@[simp] theorem roster_beginClose (now : Nat) :
    (r.beginClose now).1.roster = r.roster.shut := by
  simp [beginClose, fire, roster, attached, Roster.shut, Signal.fire, present_beginClose]

theorem roster_subscribe :
    r.subscribe.1.roster = r.roster.subscribe ∧ r.subscribe.2 = r.roster.signals.length + 1 := by
  refine ⟨?_, rfl⟩
  have empty := isEmpty_iff (r := r)
  unfold subscribe Roster.subscribe
  by_cases h : r.isEmpty = true
  · rw [if_pos h, if_pos (empty.mp h)]
    rfl
  · rw [if_neg h, if_neg (mt empty.mpr h)]
    rfl

end Relay

end Fanout
