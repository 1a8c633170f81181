import Fanout.Proofs.Broker.CleanUp
import Fanout.Proofs.Broker.Ready

namespace Fanout

namespace Broker

variable {b : Broker} {i j k : Nat} {p : Pull} {d : Departure} {s : Roster}

/-- Nothing can run, and nobody has a lock. -/
structure Resting (b : Broker) : Prop where
  idle : b.ready = []
  free : ∀ guard, b.locks.holds guard = false

namespace Resting

theorem waits (h : b.Resting) (task : BrokerTask) : b.isReady task = false := by
  rw [Bool.eq_false_iff]
  intro ready
  have member := mem_ready ready
  rw [h.idle] at member
  cases member

theorem stake (h : b.Resting) (locked : b.Locked) (task : BrokerTask) : b.stake? task = none := by
  cases staked : b.stake? task with
  | none => rfl
  | some s =>
    obtain ⟨g, member, -⟩ := locked.alive task s staked
    cases guards : b.locks.guards with
    | nil =>
      rw [guards] at member
      cases member
    | cons first rest =>
      have held := locked.valid.holds_head guards
      rw [h.free] at held
      cases held

end Resting

def Runs (b : Broker) (p : Pull) : Prop := p.returned = false ∧ b.scopeCanceled p = false

def Opened (b : Broker) (j : Nat) : Prop :=
  ∃ relay, b.registry.relays[j]? = some relay ∧ relay.closed = false

def Live (b : Broker) (j : Nat) : Prop :=
  ∃ relay, b.registry.relays[j]? = some relay ∧ b.registry.find? relay.key = some j ∧
    relay.closed = false ∧ relay.isEmpty = false

/-- The broker `m` that `b` has become after the events. -/
structure Paired (b : Broker) (events : List Event) (m : Broker) : Prop where
  served : ∀ (i : Nat) p, m.pulls[i]? = some p → m.Runs p → m.Live p.relay
  pulled : ∀ j, m.Live j → ∃! i : Nat, ∃ p, m.pulls[i]? = some p ∧ m.Runs p ∧ p.relay = j
  /-- A pull has returned once its feed has ended, and not before. -/
  returned : ∀ (i : Nat) p, m.pulls[i]? = some p → (p.returned = true ↔
    ∃ ending canceled, b.FeedEnded i events ending canceled)
  watched : ∀ (i : Nat) r place k, m.openings[i]? = some ⟨r, .opened place k⟩ →
    ∃ d, m.departures[k]? = some d ∧ d.place = place ∧ d.token = r.token
  stays : ∀ (k : Nat) d, m.departures[k]? = some d → (m.attached d.place = true ↔
    d.readerDropped = false ∧ m.tokenCanceled d.token = false ∧ m.Opened d.place.1)

theorem opened_iff : b.Opened j ↔ ∃ s, b.roster? j = some s ∧ s.closed = false :=
  exists_relay_iff (p := (·.closed = false))

theorem live_iff (h : b.registry.Listed) :
    b.Live j ↔ ∃ s, b.roster? j = some s ∧ s.closed = false ∧ s.present ≠ [] := by
  rw [← exists_relay_iff (p := fun s => s.closed = false ∧ s.present ≠ [])]
  refine exists_congr fun relay => and_congr_right fun there => ?_
  rw [Ne, ← Relay.isEmpty_iff, Bool.not_eq_true]
  refine ⟨And.right, fun ⟨opened, watched⟩ => ⟨?_, opened, watched⟩⟩
  have old : b.registry.roster? j = some relay.roster := Registry.roster?_of_relay there
  exact h.find?_eq_some_iff.mpr (h.registered j _ old opened)

theorem Resting.watched (rest : b.Resting) (h : b.Sound) (here : b.pulls[i]? = some p)
    (runs : b.Runs p) : b.Live p.relay := by
  obtain ⟨s, old, -, fits⟩ := h.pullsFit.fits i p here
  obtain ⟨notReturned, awake⟩ := runs
  have notStaked : b.stake? (.pull i) = none := rest.stake h.locked _
  have notReady : b.pullReady p = false := by simpa [isReady, here] using rest.waits (.pull i)
  have notNotified : b.watcherReady p = false := by
    simpa [isReady, here] using rest.waits (.watcher i)
  cases state : p.state with
  | starting => simp [pullReady, state] at notReady
  | queued guard => simp [stake?, here, Pull.stake?, state] at notStaked
  | running =>
    rw [state] at fits
    obtain ⟨number, told, closedIffEmpty, ⟨waiting, -⟩ | ⟨-, canceled, -⟩⟩ := fits
    · have watched : s.present ≠ [] := fun none => by
        simp [watcherReady, waiting, pullSignal_eq old number told, none] at notNotified
      have opened : s.closed = false := by
        rw [← Bool.not_eq_true]
        exact fun closed => watched (closedIffEmpty.mp closed)
      exact (live_iff h.listed).mpr ⟨s, old, opened, watched⟩
    · simp [scopeCanceled, canceled] at awake
  | leaving guard ending canceled | closing sinks ending canceled | ended outcome =>
    simp [Pull.returned, state] at notReturned

theorem PullsFit.runs (h : b.PullsFit) (up : b.shutdown = false) (here : b.pulls[i]? = some p)
    (old : b.roster? p.relay = some s) (opened : s.closed = false) : b.Runs p := by
  obtain ⟨t, same, fits⟩ := h.fits i p here
  rw [old, Option.some.injEq] at same
  subst same
  have watched := fits.watched opened
  obtain ⟨-, fits⟩ := fits
  cases state : p.state with
  | starting | queued guard =>
    rw [state] at fits
    exact ⟨by rw [Pull.returned, state], by rw [scopeCanceled, fits.1, up]; rfl⟩
  | running =>
    rw [state] at fits
    obtain ⟨-, -, -, ⟨-, awake⟩ | ⟨-, -, empty⟩⟩ := fits
    · exact ⟨by rw [Pull.returned, state], by rw [scopeCanceled, awake, up]; rfl⟩
    · exact absurd empty watched
  | leaving guard ending canceled | closing sinks ending canceled | ended outcome =>
    rw [state, opened] at fits
    cases fits.1

theorem Resting.pulled (rest : b.Resting) (h : b.Sound) (old : b.roster? j = some s)
    (watched : s.present ≠ []) : b.Pulled j := by
  by_contra unpulled
  obtain ⟨i, r, guard, place, a, here, -⟩ := h.openingsFit.unpulled j s old watched unpulled
  have notStaked : b.stake? (.opening i) = none := rest.stake h.locked _
  simp [stake?, here, Opening.stake?] at notStaked

/-- The relay of a pull is closed as soon as nobody is attached, and the other way round. -/
theorem Resting.closedIffEmpty (rest : b.Resting) (h : b.Sound) (old : b.roster? j = some s)
    (pulled : b.Pulled j) : s.ClosedIffEmpty := by
  obtain ⟨p, member, rfl⟩ := List.mem_map.mp pulled
  obtain ⟨i, here⟩ := List.mem_iff_getElem?.mp member
  have notStaked : b.stake? (.pull i) = none := rest.stake h.locked _
  obtain ⟨t, same, -, fits⟩ := h.pullsFit.fits i p here
  rw [old, Option.some.injEq] at same
  subst same
  cases state : p.state with
  | starting | queued guard =>
    rw [state] at fits
    exact fits.2.2.2
  | running =>
    rw [state] at fits
    exact fits.2.2.1
  | leaving guard ending canceled => simp [stake?, here, Pull.stake?, state] at notStaked
  | closing sinks ending canceled | ended outcome =>
    rw [state] at fits
    exact iff_of_true fits.1 fits.2.2

theorem Resting.stays (rest : b.Resting) (h : b.Sound) (up : b.shutdown = false)
    (here : b.departures[k]? = some d) : b.attached d.place = true ↔
      d.readerDropped = false ∧ b.tokenCanceled d.token = false ∧ b.Opened d.place.1 := by
  obtain ⟨pulled, s, old, -, -, matched⟩ := h.watched.matched k d here
  have closedIffEmpty := rest.closedIffEmpty h old pulled
  have notStaked : b.stake? (.departure k) = none := rest.stake h.locked _
  have notReady : b.departureReady d = false := by
    simpa [isReady, here] using rest.waits (.departure k)
  have dismissed := h.watched.dismissed k d here
  rw [attached_iff, opened_iff]
  simp only [old, Option.some.injEq, exists_eq_left']
  cases state : d.state with
  | watching =>
    rw [state] at matched
    -- otherwise the departure could run
    obtain ⟨kept, uncanceled⟩ : d.readerDropped = false ∧ b.tokenCanceled d.token = false := by
      simpa [departureReady, state, up] using notReady
    constructor
    · intro member
      refine ⟨kept, uncanceled, ?_⟩
      by_contra closed
      rw [closedIffEmpty.mp (by simpa using closed)] at member
      exact absurd member List.not_mem_nil
    · rintro ⟨-, -, opened⟩
      rcases matched with closed | member
      · rw [opened] at closed
        cases closed
      · exact member
  | queued guard => simp [stake?, here, Departure.stake?, state] at notStaked
  | closing | ended =>
    rw [state] at matched
    refine iff_of_false matched ?_
    rintro ⟨kept, uncanceled, -⟩
    rcases dismissed (by simp [state]) with dropped | canceled | down
    · rw [kept] at dropped
      cases dropped
    · rw [uncanceled] at canceled
      cases canceled
    · rw [up] at down
      cases down

theorem Resting.pulled_once (rest : b.Resting) (h : b.Sound) (up : b.shutdown = false)
    (live : b.Live j) : ∃! i : Nat, ∃ p, b.pulls[i]? = some p ∧ b.Runs p ∧ p.relay = j := by
  obtain ⟨s, old, opened, watched⟩ := (live_iff h.listed).mp live
  obtain ⟨p, member, rfl⟩ := List.mem_map.mp (rest.pulled h old watched)
  obtain ⟨i, here⟩ := List.mem_iff_getElem?.mp member
  refine ⟨i, ⟨p, here, h.pullsFit.runs up here old opened, rfl⟩, ?_⟩
  rintro i' ⟨q, there, -, same⟩
  exact place_eq_of_key h.pullsFit.single there here same

theorem paired_at_rest (config : BrokerConfig) (limits : Limits) (events : List Event)
    (up : ((Broker.new config limits).after events).shutdown = false)
    (rest : ((Broker.new config limits).after events).Resting) :
    (Broker.new config limits).Paired events ((Broker.new config limits).after events) := by
  have start : (Broker.new config limits).Sound := .initial config limits
  have sound := start.after events
  constructor
  case served =>
    intro i p here runs
    exact rest.watched sound here runs
  case pulled =>
    intro j live
    exact rest.pulled_once sound up live
  case returned =>
    intro i p here
    exact start.returned_iff rfl events here
  case watched =>
    intro i r place k answered
    obtain ⟨d, there, line⟩ :=
      Option.map_eq_some_iff.mp (sound.openingsFit.opened i r place k answered)
    exact ⟨d, there, congrArg (·.2.1) line, congrArg (·.2.2) line⟩
  case stays =>
    intro k d here
    exact rest.stays sound up here

def succession : List Event :=
  come 0 ++ go 0 ++ [.run (.delivery (0, 1)), .run (.closer (0, 1)), .run (.departure 0),
    .run (.pull 0)] ++ come 1 ++ [.run (.delivery (1, 1))]

theorem paired_after_succession :
    ((Broker.new {} [.new "g" 2]).after succession).shutdown = false ∧
      ((Broker.new {} [.new "g" 2]).after succession).Resting ∧
      (Broker.new {} [.new "g" 2]).Paired succession
        ((Broker.new {} [.new "g" 2]).after succession) := by
  have up : ((Broker.new {} [.new "g" 2]).after succession).shutdown = false := by decide
  have idle : ((Broker.new {} [.new "g" 2]).after succession).ready = [] := by decide
  have free : ((Broker.new {} [.new "g" 2]).after succession).locks.guards = [] := by decide
  have rest : ((Broker.new {} [.new "g" 2]).after succession).Resting :=
    ⟨idle, fun guard => by simp [KeyLocks.holds, KeyLocks.guard?, free]⟩
  exact ⟨up, rest, paired_at_rest _ _ _ up rest⟩

end Broker

end Fanout
