import Fanout.Proofs.Lookup
import Fanout.Proofs.Relay.Event

namespace Fanout

def Signal.answer? : Signal → Option Bool
  | .pending => none
  | .fired => some true
  | .withdrawn => some false

theorem Signal.fire_of_settled {t : Signal} (settled : t ≠ .pending) : t.fire = t := if_neg settled

namespace Roster

variable {s : Roster} {t : Signal} {n : Nat}

theorem pending_not_mem_fire (signals : List Signal) : .pending ∉ signals.map Signal.fire := by
  intro member
  obtain ⟨t, -, fired⟩ := List.mem_map.mp member
  cases t <;> cases fired

theorem withdraw_of_settled (settled : s.signals[n]? ≠ some .pending) : s.withdraw (n + 1) = s := by
  have same : (s.signals.modify n fun t => if t = .pending then .withdrawn else t) = s.signals := by
    cases here : s.signals[n]? with
    | none => exact List.modify_eq_self (List.getElem?_eq_none_iff.mp here)
    | some t =>
      have answered : t ≠ .pending := by
        rintro rfl
        exact settled here
      exact modify_self here (if_neg answered)
  exact congrArg (fun signals => { s with signals := signals }) same

theorem signals_unseat (s : Roster) (id : Nat) :
    (s.unseat id).signals =
      if (s.unseat id).present = [] then s.signals.map Signal.fire else s.signals := rfl

def Answered (s : Roster) : Prop := s.present = [] → .pending ∉ s.signals

theorem Answered.handle (answered : s.Answered) (e : RelayEvent) : (s.handle e).Answered := by
  intro empty
  cases e with
  | write data => exact answered empty
  | sink id a => exact answered empty
  | retire => exact answered empty
  | close now => exact pending_not_mem_fire s.signals
  | add pipe =>
    simp only [Roster.handle] at empty ⊢
    split at empty
    · rename_i closed
      rw [if_pos closed]
      exact answered empty
    · simp [seat] at empty
  | detach id =>
    simp only [Roster.handle] at empty ⊢
    split at empty
    · rename_i here
      rw [if_pos here, signals_unseat, if_pos empty]
      exact pending_not_mem_fire s.signals
    · rename_i gone
      rw [if_neg gone]
      exact answered empty
  | retireIfEmpty =>
    simp only [Roster.handle, Roster.retireIfEmpty] at empty ⊢
    split at empty
    · rename_i alone
      rw [if_pos alone]
      exact pending_not_mem_fire s.signals
    · rename_i kept
      rw [if_neg kept]
      exact answered empty
  | subscribe =>
    have empty : s.present = [] := empty
    simp [Roster.handle, subscribe, empty, answered empty]
  | withdraw m =>
    cases m with
    | zero => exact answered empty
    | succ m =>
      have silent := answered empty
      have settled : s.signals[m]? ≠ some .pending := fun here =>
        silent (List.mem_of_getElem? here)
      simp only [Roster.handle, withdraw_of_settled settled]
      exact silent

theorem settled_handle (settled : t ≠ .pending) (here : s.signals[n]? = some t) (e : RelayEvent) :
    (s.handle e).signals[n]? = some t := by
  have fired : (s.signals.map Signal.fire)[n]? = some t := by
    rw [List.getElem?_map, here, Option.map_some, Signal.fire_of_settled settled]
  cases e with
  | write data => exact here
  | sink id a => exact here
  | retire => exact here
  | close now => exact fired
  | add pipe =>
    simp only [Roster.handle]
    split <;> exact here
  | detach id =>
    simp only [Roster.handle]
    split
    · rw [signals_unseat]
      split
      · exact fired
      · exact here
    · exact here
  | retireIfEmpty =>
    simp only [Roster.handle, Roster.retireIfEmpty]
    split
    · exact fired
    · exact here
  | subscribe =>
    have small : n < s.signals.length := (List.getElem?_eq_some_iff.mp here).1
    simpa [Roster.handle, subscribe, List.getElem?_append_left small] using here
  | withdraw m =>
    cases m with
    | zero => exact here
    | succ m =>
      simp only [Roster.handle, Roster.withdraw, List.getElem?_modify, here]
      split <;> simp [settled]

theorem pending_handle (watched : s.present ≠ []) (here : s.signals[n]? = some .pending)
    (e : RelayEvent) :
    (e = .withdraw (n + 1) ∧ (s.handle e).present = s.present ∧
        (s.handle e).signals[n]? = some .withdrawn) ∨
      (e ≠ .withdraw (n + 1) ∧ (s.handle e).present = [] ∧
        (s.handle e).signals[n]? = some .fired) ∨
      (e ≠ .withdraw (n + 1) ∧ (s.handle e).present ≠ [] ∧
        (s.handle e).signals[n]? = some .pending) := by
  have fired : (s.signals.map Signal.fire)[n]? = some .fired := by
    rw [List.getElem?_map, here]
    rfl
  cases e with
  | write data => exact .inr (.inr ⟨by simp, watched, here⟩)
  | sink id a => exact .inr (.inr ⟨by simp, watched, here⟩)
  | retire => exact .inr (.inr ⟨by simp, watched, here⟩)
  | close now => exact .inr (.inl ⟨by simp, rfl, fired⟩)
  | add pipe =>
    refine .inr (.inr ⟨by simp, ?_⟩)
    simp only [Roster.handle]
    split
    · exact ⟨watched, here⟩
    · exact ⟨by simp [seat], here⟩
  | detach id =>
    simp only [Roster.handle]
    by_cases member : id ∈ s.present
    · rw [if_pos member, signals_unseat]
      by_cases last : (s.unseat id).present = []
      · rw [if_pos last]
        exact .inr (.inl ⟨by simp, last, fired⟩)
      · rw [if_neg last]
        exact .inr (.inr ⟨by simp, last, here⟩)
    · rw [if_neg member]
      exact .inr (.inr ⟨by simp, watched, here⟩)
  | retireIfEmpty =>
    simp only [Roster.handle, retireIfEmpty_of_present watched]
    exact .inr (.inr ⟨by simp, watched, here⟩)
  | subscribe =>
    have small : n < s.signals.length := (List.getElem?_eq_some_iff.mp here).1
    refine .inr (.inr ⟨by simp, watched, ?_⟩)
    simpa [Roster.handle, subscribe, List.getElem?_append_left small] using here
  | withdraw m =>
    cases m with
    | zero => exact .inr (.inr ⟨by simp, watched, here⟩)
    | succ m =>
      by_cases own : m = n
      · subst own
        exact .inl ⟨rfl, rfl, by simp [Roster.handle, Roster.withdraw, here]⟩
      · refine .inr (.inr ⟨?_, watched, ?_⟩)
        · simpa using own
        · simpa [Roster.handle, Roster.withdraw, List.getElem?_modify, own] using here

theorem present_handle_eq_nil_iff (watched : s.present ≠ []) (e : RelayEvent) :
    (s.handle e).present = [] ↔
      (∃ id, e = .detach id ∧ id ∈ s.present ∧ ∀ other ∈ s.present, other = id) ∨
        ∃ now, e = .close now := by
  cases e with
  | close now => exact ⟨fun _ => .inr ⟨now, rfl⟩, fun _ => rfl⟩
  | detach id =>
    simp only [Roster.handle]
    by_cases here : id ∈ s.present
    · rw [if_pos here]
      simp [unseat, here]
    · rw [if_neg here]
      simp [watched, here]
  | add pipe =>
    simp only [Roster.handle]
    split <;> simp [seat, watched]
  | retireIfEmpty => simp [Roster.handle, retireIfEmpty_of_present watched, watched]
  | withdraw m => cases m <;> simp [Roster.handle, Roster.withdraw, watched]
  | _ => simp [Roster.handle, Roster.retire, Roster.subscribe, watched]

end Roster

namespace Relay

variable {r : Relay} {n : Nat}

/-- The operation with which the last viewer goes. -/
def Empties (r : Relay) (e : RelayEvent) : Prop :=
  r.isEmpty = false ∧ (r.handle e).isEmpty = true

def Watched (r : Relay) (events : List RelayEvent) : Prop :=
  ∀ past, past <+: events → (r.after past).isEmpty = false

/-- At some time the last viewer goes, and the subscription is not withdrawn before. -/
def Fires (r : Relay) (n : Nat) (events : List RelayEvent) : Prop :=
  ∃ past e rest, events = past ++ e :: rest ∧ .withdraw n ∉ past ∧ (r.after past).Empties e

def Withdraws (r : Relay) (n : Nat) (events : List RelayEvent) : Prop :=
  ∃ past rest, events = past ++ .withdraw n :: rest ∧ r.Watched past

def answer? (r : Relay) (n : Nat) : Option Bool := (r.signal? n).bind Signal.answer?

theorem isEmpty_eq_false_iff : r.isEmpty = false ↔ r.roster.present ≠ [] := by
  rw [← Bool.not_eq_true, isEmpty_iff]

theorem signal?_succ (r : Relay) (n : Nat) : r.signal? (n + 1) = r.roster.signals[n]? := rfl

theorem empties_iff {e : RelayEvent} :
    r.Empties e ↔
      (∃ id, e = .detach id ∧ r.isAttached id = true ∧
          ∀ other, r.isAttached other = true → other = id) ∨
        ∃ now, e = .close now ∧ r.isEmpty = false := by
  unfold Empties
  rw [isEmpty_iff, roster_handle]
  constructor
  · rintro ⟨watched, empty⟩
    rw [isEmpty_eq_false_iff] at watched
    rcases (Roster.present_handle_eq_nil_iff watched e).mp empty with
      ⟨id, rfl, here, last⟩ | ⟨now, rfl⟩
    · exact .inl ⟨id, rfl, isAttached_iff.mpr here, fun other there =>
        last other (isAttached_iff.mp there)⟩
    · exact .inr ⟨now, rfl, isEmpty_eq_false_iff.mpr watched⟩
  · rintro (⟨id, rfl, here, last⟩ | ⟨now, rfl, watched⟩)
    · have here := isAttached_iff.mp here
      have watched : r.roster.present ≠ [] := List.ne_nil_of_mem here
      have last : ∀ other ∈ r.roster.present, other = id := fun other there =>
        last other (isAttached_iff.mpr there)
      exact ⟨isEmpty_eq_false_iff.mpr watched,
        (Roster.present_handle_eq_nil_iff watched _).mpr (.inl ⟨id, rfl, here, last⟩)⟩
    · exact ⟨watched, rfl⟩

theorem watched_nil : r.Watched [] ↔ r.isEmpty = false := by
  simp [Watched, List.prefix_nil]

theorem watched_cons {e : RelayEvent} {later : List RelayEvent} :
    r.Watched (e :: later) ↔ r.isEmpty = false ∧ (r.handle e).Watched later := by
  unfold Watched
  constructor
  · intro watched
    exact ⟨watched [] (List.nil_prefix), fun past before =>
      watched (e :: past) (List.cons_prefix_cons.mpr ⟨rfl, before⟩)⟩
  · rintro ⟨here, onward⟩ past before
    cases past with
    | nil => exact here
    | cons x past =>
      obtain ⟨rfl, inner⟩ := List.cons_prefix_cons.mp before
      exact onward past inner

theorem Watched.here {later : List RelayEvent} (watched : r.Watched later) : r.isEmpty = false :=
  watched [] List.nil_prefix

theorem fires_nil : ¬ r.Fires n [] := by
  rintro ⟨past, e, rest, split, -⟩
  cases past <;> cases split

theorem fires_cons {e : RelayEvent} {later : List RelayEvent} :
    r.Fires n (e :: later) ↔
      r.Empties e ∨ e ≠ .withdraw n ∧ (r.handle e).Fires n later := by
  constructor
  · rintro ⟨past, x, rest, split, silent, empties⟩
    cases past with
    | nil =>
      cases split
      exact .inl empties
    | cons y past =>
      cases split
      rw [List.mem_cons, not_or] at silent
      exact .inr ⟨Ne.symm silent.1, past, x, rest, rfl, silent.2, empties⟩
  · rintro (empties | ⟨other, past, x, rest, rfl, silent, empties⟩)
    · exact ⟨[], e, later, rfl, List.not_mem_nil, empties⟩
    · refine ⟨e :: past, x, rest, rfl, ?_, empties⟩
      rw [List.mem_cons, not_or]
      exact ⟨Ne.symm other, silent⟩

theorem withdraws_nil : ¬ r.Withdraws n [] := by
  rintro ⟨past, rest, split, -⟩
  cases past <;> cases split

theorem withdraws_cons {e : RelayEvent} {later : List RelayEvent} :
    r.Withdraws n (e :: later) ↔
      r.isEmpty = false ∧ (e = .withdraw n ∨ (r.handle e).Withdraws n later) := by
  constructor
  · rintro ⟨past, rest, split, watched⟩
    cases past with
    | nil =>
      cases split
      exact ⟨watched_nil.mp watched, .inl rfl⟩
    | cons y past =>
      cases split
      rw [watched_cons] at watched
      exact ⟨watched.1, .inr ⟨past, rest, rfl, watched.2⟩⟩
  · rintro ⟨here, rfl | ⟨past, rest, rfl, watched⟩⟩
    · exact ⟨[], later, rfl, watched_nil.mpr here⟩
    · exact ⟨e :: past, rest, rfl, watched_cons.mpr ⟨here, watched⟩⟩

theorem Withdraws.here {later : List RelayEvent} (withdraws : r.Withdraws n later) :
    r.isEmpty = false := by
  obtain ⟨past, rest, -, watched⟩ := withdraws
  exact watched.here

theorem settled_after {t : Signal} (settled : t ≠ .pending) (here : r.signal? n = some t)
    (later : List RelayEvent) : (r.after later).signal? n = some t := by
  cases n with
  | zero => cases here
  | succ n =>
    induction later generalizing r with
    | nil => exact here
    | cons e rest ih =>
      apply ih
      rw [signal?_succ, roster_handle]
      exact Roster.settled_handle settled here e

theorem answer?_eq_some_iff {told : Bool} :
    r.answer? n = some told ↔ ∃ t, r.signal? n = some t ∧ t.answer? = some told := by
  simp [answer?, Option.bind_eq_some_iff]

theorem answer?_eq_true_iff : r.answer? n = some true ↔ r.signal? n = some .fired := by
  rw [answer?_eq_some_iff]
  constructor
  · rintro ⟨t, here, told⟩
    cases t <;> first | exact here | cases told
  · intro here
    exact ⟨_, here, rfl⟩

theorem answer?_eq_false_iff : r.answer? n = some false ↔ r.signal? n = some .withdrawn := by
  rw [answer?_eq_some_iff]
  constructor
  · rintro ⟨t, here, told⟩
    cases t <;> first | exact here | cases told
  · intro here
    exact ⟨_, here, rfl⟩

theorem answer?_after {told : Bool} (answer : r.answer? n = some told) (later : List RelayEvent) :
    (r.after later).answer? n = some told := by
  obtain ⟨t, here, told⟩ := answer?_eq_some_iff.mp answer
  have settled : t ≠ .pending := by
    rintro rfl
    cases told
  exact answer?_eq_some_iff.mpr ⟨t, settled_after settled here later, told⟩

theorem withdraw_of_answered (settled : r.signal? n ≠ some .pending) : r.withdraw n = r := by
  cases n with
  | zero => rfl
  | succ n =>
    have same := congrArg Roster.signals (Roster.withdraw_of_settled (s := r.roster) settled)
    exact congrArg (fun signals => { r with signals := signals }) same

theorem signal?_withdraw {m : Nat} (other : m ≠ n) : (r.withdraw m).signal? n = r.signal? n := by
  cases m with
  | zero => rfl
  | succ m =>
    cases n with
    | zero => rfl
    | succ n =>
      have other : m ≠ n := by omega
      simp [signal?, withdraw, other]

theorem signal?_subscribe :
    r.subscribe.1.signal? r.subscribe.2 = some (if r.isEmpty then .fired else .pending) := by
  simp [subscribe, signal?]

theorem isEmpty_subscribe : r.subscribe.1.isEmpty = r.isEmpty := rfl

theorem answered_after (key : StreamKey) (config : RelayConfig) (events : List RelayEvent) :
    ((Relay.new key config).after events).roster.Answered := by
  have start : (Relay.new key config).roster.Answered := fun _ => List.not_mem_nil
  generalize Relay.new key config = r at start
  induction events generalizing r with
  | nil => exact start
  | cons e rest ih =>
    apply ih
    rw [roster_handle]
    exact start.handle e

/-- What becomes of a pending subscription, by induction on the run: the first operation either
settles it or leaves it pending beside a viewer. -/
theorem pending_after (watched : r.isEmpty = false) (here : r.signal? n = some .pending)
    (later : List RelayEvent) :
    ((r.after later).answer? n = some true ↔ r.Fires n later) ∧
      ((r.after later).answer? n = some false ↔ r.Withdraws n later) ∧
      ((r.after later).answer? n = none ↔ .withdraw n ∉ later ∧ r.Watched later) := by
  cases n with
  | zero => cases here
  | succ n =>
    induction later generalizing r with
    | nil =>
      have unanswered : r.answer? (n + 1) = none := by rw [answer?, here]; rfl
      simp [unanswered, fires_nil, withdraws_nil, watched_nil, watched]
    | cons e rest ih =>
      rw [after_cons, fires_cons, withdraws_cons, watched_cons]
      have present := isEmpty_eq_false_iff.mp watched
      rcases Roster.pending_handle present here e with
        ⟨rfl, same, told⟩ | ⟨other, empty, told⟩ | ⟨other, some, told⟩
      all_goals rw [← roster_handle, ← signal?_succ] at told
      · rw [← roster_handle] at same
        have stays : (r.handle (.withdraw (n + 1))).isEmpty = false := by
          rwa [isEmpty_eq_false_iff, same]
        have answer := answer?_after (answer?_eq_false_iff.mpr told) rest
        simp [answer, Empties, watched, stays]
      · rw [← roster_handle] at empty
        have empty : (r.handle e).isEmpty = true := isEmpty_iff.mpr empty
        have answer := answer?_after (answer?_eq_true_iff.mpr told) rest
        have unwatched : ¬ (r.handle e).Watched rest := fun onward =>
          absurd onward.here (by simp [empty])
        have kept : ¬ (r.handle e).Withdraws (n + 1) rest := fun onward =>
          absurd onward.here (by simp [empty])
        simp [answer, Empties, watched, empty, other, unwatched, kept]
      · rw [← roster_handle] at some
        have stays : (r.handle e).isEmpty = false := isEmpty_eq_false_iff.mpr some
        obtain ⟨fired, withdrawn, pending⟩ := ih stays told
        rw [fired, withdrawn, pending]
        simp [Empties, watched, stays, other, Ne.symm other]

/-- What a new subscription is told in any run that follows. -/
theorem subscribed_after (r : Relay) (later : List RelayEvent) :
    ((r.subscribe.1.after later).answer? r.subscribe.2 = some true ↔
        r.isEmpty = true ∨ r.subscribe.1.Fires r.subscribe.2 later) ∧
      ((r.subscribe.1.after later).answer? r.subscribe.2 = some false ↔
        r.subscribe.1.Withdraws r.subscribe.2 later) ∧
      ((r.subscribe.1.after later).answer? r.subscribe.2 = none ↔
        .withdraw r.subscribe.2 ∉ later ∧ r.subscribe.1.Watched later) := by
  have here := signal?_subscribe (r := r)
  cases empty : r.isEmpty with
  | true =>
    rw [empty, if_pos rfl] at here
    have answer := answer?_after (answer?_eq_true_iff.mpr here) later
    have unwatched : ¬ r.subscribe.1.Watched later := fun watched =>
      absurd watched.here (by simp [isEmpty_subscribe, empty])
    have kept : ¬ r.subscribe.1.Withdraws r.subscribe.2 later := fun withdraws =>
      absurd withdraws.here (by simp [isEmpty_subscribe, empty])
    simp [answer, unwatched, kept]
  | false =>
    rw [empty, if_neg (by decide)] at here
    simpa using pending_after (isEmpty_subscribe.trans empty) here later

theorem not_fired_of_watched {later : List RelayEvent} (watched : r.subscribe.1.Watched later) :
    (r.subscribe.1.after later).answer? r.subscribe.2 ≠ some true := by
  intro fired
  rcases (subscribed_after r later).1.mp fired with empty | ⟨past, e, rest, rfl, -, -, empty⟩
  · have here := watched.here
    rw [isEmpty_subscribe, empty] at here
    cases here
  · have there := watched (past ++ [e]) (by simp)
    rw [after_append, after_cons, after_nil, empty] at there
    cases there

/-- The empty signal in every state of a relay. Nobody waits for it while nobody is attached. What a
listener has been told stands. A subscription fires if nobody is attached when it is made, or when
the last viewer goes, detached or by the closing of the relay, before it is withdrawn; it is told
otherwise if it is withdrawn while viewers have been attached all along, and waits until then. To
withdraw one that has been answered, or a number that nobody has, changes nothing, and to withdraw
another changes nothing for this one. -/
theorem empty_signal (key : StreamKey) (config : RelayConfig) (events : List RelayEvent) :
    let r := (Relay.new key config).after events
    (r.isEmpty = true → ∀ m, r.signal? m ≠ some .pending) ∧
    (∀ e, r.Empties e ↔
      (∃ id, e = .detach id ∧ r.isAttached id = true ∧
        ∀ other, r.isAttached other = true → other = id) ∨
        ∃ now, e = .close now ∧ r.isEmpty = false) ∧
    (∀ m told later, r.answer? m = some told → (r.after later).answer? m = some told) ∧
    (∀ later,
      ((r.subscribe.1.after later).answer? r.subscribe.2 = some true ↔
        r.isEmpty = true ∨ r.subscribe.1.Fires r.subscribe.2 later) ∧
      ((r.subscribe.1.after later).answer? r.subscribe.2 = some false ↔
        r.subscribe.1.Withdraws r.subscribe.2 later) ∧
      ((r.subscribe.1.after later).answer? r.subscribe.2 = none ↔
        .withdraw r.subscribe.2 ∉ later ∧ r.subscribe.1.Watched later)) ∧
    (∀ later, r.subscribe.1.Watched later →
      (r.subscribe.1.after later).answer? r.subscribe.2 ≠ some true) ∧
    (∀ m, r.signal? m ≠ some .pending → r.withdraw m = r) ∧
    ∀ m n, m ≠ n → (r.withdraw m).signal? n = r.signal? n := by
  intro r
  refine ⟨?silent, fun e => empties_iff, ?matched, subscribed_after r, ?continuously, ?answered,
    ?other⟩
  case silent =>
    intro empty m pending
    have silent := answered_after key config events (isEmpty_iff.mp empty)
    cases m with
    | zero => cases pending
    | succ m => exact silent (List.mem_of_getElem? pending)
  case matched =>
    intro m told later answer
    exact answer?_after answer later
  case continuously =>
    intro later watched
    exact not_fired_of_watched watched
  case answered =>
    intro m settled
    exact withdraw_of_answered settled
  case other =>
    intro m n other
    exact signal?_withdraw other

example :
    let r := (Relay.new ⟨"k"⟩ {}).after
      [.add { capacity := 64 }, .subscribe, .subscribe, .subscribe, .withdraw 3, .detach 1]
    [1, 2, 3].map r.answer? = [some true, some true, some false] := by decide

end Relay

end Fanout
