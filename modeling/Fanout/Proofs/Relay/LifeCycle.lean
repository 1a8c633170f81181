import Fanout.Proofs.Relay.Drift
import Fanout.Proofs.Relay.Signal
import Mathlib.Data.List.Induction

namespace Fanout

namespace Roster

variable {s : Roster}

theorem later_handle (s : Roster) (e : RelayEvent) : s.Later (s.handle e) := by
  cases e with
  | write data => exact .refl s
  | sink id a => exact .refl s
  | retire => exact .retire_withdraw s 0
  | retireIfEmpty => exact .retireIfEmpty s
  | close now => exact .shut s
  | subscribe => exact .subscribe s
  | withdraw n => cases n <;> exact ⟨rfl, fun shut => shut, fun _ _ member => member, Nat.le_refl _⟩
  | add pipe =>
    simp only [handle]
    split
    · exact .refl s
    · rename_i opened
      exact .seat (by simpa using opened)
  | detach id =>
    simp only [handle]
    split
    · exact .unseat s id
    · exact .refl s

theorem closed_handle_iff (e : RelayEvent) :
    (s.handle e).closed = true ↔
      s.closed = true ∨ e = .retire ∨ (∃ now, e = .close now) ∨
        e = .retireIfEmpty ∧ s.present = [] := by
  cases e with
  | add pipe => cases closed : s.closed <;> simp [handle, closed, seat]
  | detach id =>
    simp only [handle]
    split <;> simp [unseat]
  | retireIfEmpty =>
    cases closed : s.closed with
    | true => simp [handle, retireIfEmpty_of_closed closed, closed]
    | false => by_cases empty : s.present = [] <;> simp [handle, retireIfEmpty, closed, empty, shut]
  | withdraw n => cases n <;> simp [handle, withdraw]
  | _ => simp [handle, retire, shut, subscribe]

theorem mem_handle_iff (e : RelayEvent) {id : Nat} :
    id ∈ (s.handle e).present ↔
      (id ∈ s.present ∧ e ≠ .detach id ∧ ∀ now, e ≠ .close now) ∨
        ∃ pipe, e = .add pipe ∧ s.closed = false ∧ id = s.seats + 1 := by
  cases e with
  | add pipe =>
    cases closed : s.closed <;> simp [handle, closed, seat]
  | detach other =>
    simp only [handle]
    split
    · rw [mem_unseat, ne_comm]
      simp
    · rename_i gone
      have apart : id ∈ s.present → other ≠ id := by
        rintro here rfl
        exact gone here
      simpa using apart
  | retireIfEmpty =>
    simp only [handle, retireIfEmpty]
    split
    · rename_i alone
      simp [shut, alone.2]
    · simp
  | close now => simp [handle, shut]
  | withdraw n => cases n <;> simp [handle, withdraw]
  | _ => simp [handle, retire, subscribe]

end Roster

namespace Relay

variable {r : Relay} {id : Nat}

theorem later_after (r : Relay) (later : List RelayEvent) :
    r.roster.Later (r.after later).roster := by
  induction later generalizing r with
  | nil => exact .refl _
  | cons e rest ih =>
    have first := r.roster.later_handle e
    rw [← roster_handle] at first
    exact first.trans (ih (r.handle e))

theorem closed_handle_iff (e : RelayEvent) :
    (r.handle e).closed = true ↔
      r.closed = true ∨ e = .retire ∨ (∃ now, e = .close now) ∨
        e = .retireIfEmpty ∧ r.isEmpty = true := by
  rw [isEmpty_iff]
  change (r.handle e).roster.closed = true ↔ _
  rw [roster_handle]
  exact Roster.closed_handle_iff e

def issue? (r : Relay) : RelayEvent → Option Nat
  | .add pipe => (r.add pipe).map (·.2.1)
  | _ => none

def issued (r : Relay) : List RelayEvent → List Nat
  | [] => []
  | e :: rest => (r.issue? e).toList ++ (r.handle e).issued rest

theorem issue?_eq_some_iff {e : RelayEvent} :
    r.issue? e = some id ↔
      ∃ pipe, e = .add pipe ∧ r.roster.closed = false ∧ id = r.roster.seats + 1 := by
  cases e with
  | add pipe =>
    cases closed : r.closed with
    | true => simp [issue?, add_of_closed closed, roster, closed]
    | false => simp [issue?, add_of_open closed, roster, closed, eq_comm]
  | _ => simp [issue?]

theorem issue?_cases (r : Relay) (e : RelayEvent) :
    (r.issue? e = none ∧ (r.handle e).viewers.length = r.viewers.length) ∨
      (r.issue? e = some (r.viewers.length + 1) ∧
        (r.handle e).viewers.length = r.viewers.length + 1) := by
  cases e with
  | add pipe =>
    cases closed : r.closed with
    | true => simp [issue?, handle, add_of_closed closed]
    | false => simp [issue?, handle, add_of_open closed]
  | _ => exact .inl ⟨rfl, by simp [viewers_handle, newcomers]⟩

theorem issued_eq (r : Relay) (events : List RelayEvent) :
    ∃ n, (r.after events).viewers.length = r.viewers.length + n ∧
      r.issued events = List.range' (r.viewers.length + 1) n := by
  induction events generalizing r with
  | nil => exact ⟨0, rfl, rfl⟩
  | cons e rest ih =>
    obtain ⟨n, length, numbers⟩ := ih (r.handle e)
    rw [after_cons, issued]
    rcases r.issue?_cases e with ⟨none, same⟩ | ⟨next, more⟩
    · rw [same] at length numbers
      exact ⟨n, length, by rw [none, numbers]; rfl⟩
    · rw [more] at length numbers
      refine ⟨n + 1, by omega, ?_⟩
      rw [next, numbers, List.range'_succ]
      rfl

theorem isAttached_handle (e : RelayEvent) :
    (r.handle e).isAttached id = true ↔
      (r.isAttached id = true ∧ e ≠ .detach id ∧ ∀ now, e ≠ .close now) ∨
        r.issue? e = some id := by
  rw [isAttached_iff, isAttached_iff, issue?_eq_some_iff, roster_handle, Roster.mem_handle_iff]

/-- At some time the number is handed out, and from then on the viewer is not detached and the relay
not closed. -/
def Joined (r : Relay) (id : Nat) (events : List RelayEvent) : Prop :=
  ∃ past e rest, events = past ++ e :: rest ∧ (r.after past).issue? e = some id ∧
    .detach id ∉ rest ∧ ∀ now, .close now ∉ rest

theorem joined_append {past : List RelayEvent} {e : RelayEvent} :
    r.Joined id (past ++ [e]) ↔
      (r.Joined id past ∧ e ≠ .detach id ∧ ∀ now, e ≠ .close now) ∨
        (r.after past).issue? e = some id := by
  constructor
  · rintro ⟨first, add, rest, split, issued, stays, opened⟩
    rcases List.eq_nil_or_concat rest with rfl | ⟨middle, last, rfl⟩
    · obtain ⟨rfl, same⟩ := List.append_inj' split rfl
      obtain rfl : e = add := by simpa using same
      exact .inr issued
    · rw [List.concat_eq_append] at split stays opened
      rw [← List.cons_append, ← List.append_assoc] at split
      obtain ⟨rfl, same⟩ := List.append_inj' split rfl
      obtain rfl : e = last := by simpa using same
      simp only [List.mem_append, List.mem_singleton, not_or] at stays opened
      exact .inl ⟨⟨first, add, middle, rfl, issued, stays.1, fun now => (opened now).1⟩,
        Ne.symm stays.2, fun now => Ne.symm (opened now).2⟩
  · rintro (⟨⟨first, add, rest, rfl, issued, stays, opened⟩, other, kept⟩ | issued)
    · refine ⟨first, add, rest ++ [e], by simp, issued, ?_, fun now => ?_⟩
      · simp [stays, Ne.symm other]
      · simp [opened now, Ne.symm (kept now)]
    · exact ⟨past, e, [], rfl, issued, List.not_mem_nil, fun _ => List.not_mem_nil⟩

/-- Who is attached, by induction on the run from its end: the last operation lets somebody in or
takes somebody off. -/
theorem isAttached_after (empty : r.viewers = []) (events : List RelayEvent) :
    (r.after events).isAttached id = true ↔ r.Joined id events := by
  induction events using List.reverseRecOn with
  | nil =>
    have nobody : r.isAttached id = false := by simp [isAttached, attached, empty]
    simp [nobody, Joined]
  | append_singleton past e ih =>
    rw [after_append, after_cons, after_nil, isAttached_handle, joined_append, ih]

/-- Nobody comes back: a number that was handed out and is not attached is never attached again. -/
theorem gone_after (given : id ≤ r.viewers.length) (gone : r.isAttached id = false)
    (later : List RelayEvent) : (r.after later).isAttached id = false := by
  induction later generalizing r with
  | nil => exact gone
  | cons e rest ih =>
    have grows : r.viewers.length ≤ (r.handle e).viewers.length := by
      rcases r.issue?_cases e with ⟨-, same⟩ | ⟨-, more⟩ <;> omega
    refine ih (Nat.le_trans given grows) ?_
    rw [← Bool.not_eq_true, isAttached_handle]
    rintro (⟨here, -⟩ | issued)
    · rw [gone] at here
      cases here
    · obtain ⟨-, -, -, rfl⟩ := issue?_eq_some_iff.mp issued
      exact absurd given (Nat.not_succ_le_self _)

theorem Recorded.given {config : RelayConfig} {text : Bytes} (known : r.Recorded config text)
    (here : r.isAttached id = true) : id ≤ r.viewers.length := by
  simp only [isAttached, attached, List.any_filter, List.any_eq_true, Bool.and_eq_true,
    beq_iff_eq] at here
  obtain ⟨v, member, -, rfl⟩ := here
  obtain ⟨i, there⟩ := List.mem_iff_getElem?.mp member
  rw [known.numbered i v there]
  exact (List.getElem?_eq_some_iff.mp there).1

theorem isSome_add_iff (r : Relay) (pipe : Pipe) :
    (r.add pipe).isSome = true ↔ r.closed = false := by
  cases closed : r.closed with
  | true => simp [add_of_closed closed]
  | false => simp [add_of_open closed]

theorem isSome_detach (r : Relay) (id : Nat) : (r.detach id).isSome = r.isAttached id := by
  cases here : r.isAttached id <;> simp [detach, here]

theorem beginRemove_eq (r : Relay) (id now : Nat) :
    r.beginRemove id now =
      if r.isAttached id then some (r.after [.detach id, .sink id (.beginClose 0 now)])
      else none := by
  cases here : r.isAttached id <;> simp [beginRemove, detach, handle, here, Sink.act]

theorem Recorded.left {config : RelayConfig} {text : Bytes} (known : r.Recorded config text)
    (here : r.isAttached id = true) (later : List RelayEvent) :
    ((r.handle (.detach id)).after later).isAttached id = false := by
  have given := known.given here
  rcases r.issue?_cases (.detach id) with ⟨-, same⟩ | ⟨issued, -⟩
  · refine gone_after (same ▸ given) ?_ later
    rw [← Bool.not_eq_true, isAttached_handle]
    simp [issue?]
  · cases issued

theorem Recorded.off {config : RelayConfig} {text : Bytes} {r' : Relay}
    (known : r.Recorded config text)
    (removed : r.detach id = some r' ∨ ∃ now, r.beginRemove id now = some r')
    (later : List RelayEvent) : (r'.after later).isAttached id = false := by
  rcases removed with detached | ⟨now, removed⟩
  · have here : r.isAttached id = true := isAttached_iff.mpr (roster_detach detached).1
    have left := known.left here later
    rwa [Relay.handle, detached] at left
  · rw [beginRemove_eq] at removed
    split at removed
    · rename_i here
      obtain rfl := Option.some.inj removed
      exact known.left here (.sink id (.beginClose 0 now) :: later)
    · cases removed

theorem empties_of_empty {later : List RelayEvent} (watched : r.isEmpty = false)
    (empty : (r.after later).isEmpty = true) :
    ∃ past e rest, later = past ++ e :: rest ∧ (r.after past).Empties e := by
  induction later generalizing r with
  | nil =>
    rw [after_nil, watched] at empty
    cases empty
  | cons e rest ih =>
    cases next : (r.handle e).isEmpty with
    | true => exact ⟨[], e, rest, rfl, watched, next⟩
    | false =>
      obtain ⟨past, x, others, rfl, empties⟩ := ih next empty
      exact ⟨e :: past, x, others, rfl, empties⟩

theorem empties_of_first {r' r'' : Relay} {pipe pipe' : Pipe} {other : Nat} {first : Bool}
    {later : List RelayEvent} (added : r.add pipe = some (r', id, first))
    (again : (r'.after later).add pipe' = some (r'', other, true)) :
    ∃ past e rest, later = past ++ e :: rest ∧ (r'.after past).Empties e := by
  obtain ⟨-, -, -, seated⟩ := roster_add added
  obtain ⟨-, -, empty, -⟩ := roster_add again
  refine empties_of_empty ?_ empty.symm
  rw [isEmpty_eq_false_iff, seated]
  simp [Roster.seat]

/-- The life of a relay, in every state that its operations lead to. It is closed for good, and a
closed one refuses viewers, which changes nothing. The numbers of the viewers are handed out in
ascending order, each once; a viewer is first if nobody was attached just before, so between two
such viewers the relay became empty. Attached are those who were added and since then not detached,
with no close in between. A viewer is detached or removed at most once. Retiring closes the relay
and takes nobody off it, and from then on viewers only leave; retiring it only if it is empty answers
whether it is closed afterwards. -/
theorem life_cycle (key : StreamKey) (config : RelayConfig) (events : List RelayEvent) :
    let start := Relay.new key config
    let r := start.after events
    (∀ e, (r.handle e).closed = true ↔ r.closed = true ∨ e = .retire ∨ (∃ now, e = .close now) ∨
      e = .retireIfEmpty ∧ r.isEmpty = true) ∧
    (∀ later, r.closed = true → (r.after later).closed = true ∧
      ∀ id, (r.after later).isAttached id = true → r.isAttached id = true) ∧
    (∀ pipe, ((r.add pipe).isSome = true ↔ r.closed = false) ∧
      (r.closed = true → r.handle (.add pipe) = r)) ∧
    (start.issued events).Pairwise (· < ·) ∧
    (∀ pipe r' id first, r.add pipe = some (r', id, first) →
      r' = r.handle (.add pipe) ∧ (∀ earlier ∈ start.issued events, earlier < id) ∧
      (first = true ↔ ∀ other, r.isAttached other = false) ∧
      ∀ later pipe' r'' id', (r'.after later).add pipe' = some (r'', id', true) →
        ∃ past e rest, later = past ++ e :: rest ∧ (r'.after past).Empties e) ∧
    (∀ id, r.isAttached id = true ↔ start.Joined id events) ∧
    (∀ id, (r.detach id).isSome = r.isAttached id ∧
      ∀ now, r.beginRemove id now =
        if r.isAttached id then some (r.after [.detach id, .sink id (.beginClose 0 now)])
        else none) ∧
    (∀ id r', (r.detach id = some r' ∨ ∃ now, r.beginRemove id now = some r') → ∀ later,
      (r'.after later).detach id = none ∧ ∀ now, (r'.after later).beginRemove id now = none) ∧
    (∀ id, r.retire.isAttached id = r.isAttached id) ∧
    (∀ now id, (r.beginClose now).1.isAttached id = false) ∧
    r.retireIfEmpty.2 = r.retireIfEmpty.1.closed ∧
    ∀ id, r.retireIfEmpty.1.isAttached id = r.isAttached id := by
  intro start r
  have known : r.Recorded config _ := (Recorded.new key config).after events
  obtain ⟨n, length, numbers⟩ := start.issued_eq events
  refine ⟨closed_handle_iff, fun later shut => ?permanent, fun pipe => ⟨r.isSome_add_iff pipe, ?refused⟩,
    ?ascending, fun pipe r' id first added => ?added, fun id => isAttached_after rfl events,
    fun id => ⟨r.isSome_detach id, r.beginRemove_eq id⟩, fun id r' removed later => ?once,
    fun id => rfl, fun now id => ?everybody, ?answer, fun id => ?nobody⟩
  case permanent =>
    have onward := r.later_after later
    refine ⟨onward.closed shut, fun id there => ?_⟩
    exact isAttached_iff.mpr (onward.nobody shut id (isAttached_iff.mp there))
  case refused =>
    intro shut
    simp [handle, add_of_closed shut]
  case ascending =>
    rw [numbers]
    exact List.pairwise_lt_range'
  case added =>
    obtain ⟨-, rfl, rfl, -⟩ := roster_add added
    refine ⟨by simp [handle, added], fun earlier given => ?_, ?_,
      fun later pipe' r'' id' again => empties_of_first added again⟩
    · have seats : r.roster.seats = start.viewers.length + n := length
      rw [numbers, List.mem_range'_1] at given
      omega
    · simp [isEmpty, isAttached, List.eq_nil_iff_forall_not_mem]
  case once =>
    have off := known.off removed later
    refine ⟨?_, fun now => by rw [beginRemove_eq, off]; rfl⟩
    rw [← Option.not_isSome_iff_eq_none, isSome_detach, off]
    exact Bool.false_ne_true
  case everybody =>
    rw [← Bool.not_eq_true, isAttached_iff, roster_beginClose]
    exact List.not_mem_nil
  case answer =>
    obtain ⟨roster, told⟩ := roster_retireIfEmpty (r := r)
    exact told.trans (congrArg Roster.closed roster.symm)
  case nobody => simp [isAttached, attached, viewers_retireIfEmpty]

example :
    let come : RelayEvent := .add { capacity := 64 }
    let r := (Relay.new ⟨"k"⟩ {}).after [come, come, .detach 1, come, .retire, come]
    [1, 2, 3, 4].map r.isAttached = [false, true, true, false] := by decide

end Relay

end Fanout
