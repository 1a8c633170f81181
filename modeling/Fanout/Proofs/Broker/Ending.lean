import Fanout.Proofs.Broker.Aside
import Fanout.Proofs.Broker.Canceled
import Fanout.Proofs.Relay.Signal

namespace Fanout

namespace Relay

variable {r : Relay}

/-- Nobody can join any more, and no listener is waiting. -/
def Released (r : Relay) : Prop :=
  (∀ pipe, r.add pipe = none) ∧ ∀ n, r.signal? n ≠ some .pending

theorem released_beginClose (r : Relay) (now : Nat) : (r.beginClose now).1.Released := by
  have signals : (r.beginClose now).1.signals = r.signals.map Signal.fire :=
    congrArg Roster.signals (roster_beginClose now)
  refine ⟨add_of_closed rfl, ?_⟩
  intro n pending
  cases n with
  | zero => cases pending
  | succ n =>
    rw [signal?, signals] at pending
    exact Roster.pending_not_mem_fire r.signals (List.mem_of_getElem? pending)

theorem released_retire_withdraw {listener : Nat}
    (heard : ∀ n, r.signal? n = some .pending → n = listener) :
    (r.retire.withdraw listener).Released := by
  refine ⟨add_of_closed (by cases listener <;> rfl), ?_⟩
  intro n pending
  by_cases own : n = listener
  · subst own
    cases n with
    | zero => cases pending
    | succ n =>
      simp only [signal?, withdraw, List.getElem?_modify_eq, Option.map_eq_map] at pending
      obtain ⟨t, -, settled⟩ := Option.map_eq_some_iff.mp pending
      split at settled
      · cases settled
      · contradiction
  · rw [signal?_withdraw (Ne.symm own)] at pending
    exact own (heard n pending)

theorem signal?_writeAll (chunks : List Bytes) (n : Nat) :
    (r.writeAll chunks).1.signal? n = r.signal? n := by
  have signals : (r.writeAll chunks).1.signals = r.signals :=
    congrArg Roster.signals (roster_writeAll chunks)
  cases n with
  | zero => rfl
  | succ n => rw [signal?, signal?, signals]

end Relay

namespace Registry

variable {g : Registry} {key other : StreamKey} {i : Nat}

theorem removeIfSame_relays (g : Registry) (key : StreamKey) (i : Nat) :
    (g.removeIfSame key i).1.relays = g.relays := by
  unfold removeIfSame
  split <;> rfl

theorem relay_beginClose {r : Relay} (relay : g.relays[i]? = some r) (now : Nat) :
    (g.beginClose i now).1.relays[i]? = some (r.beginClose now).1 := by
  have small := (List.getElem?_eq_some_iff.mp relay).1
  unfold beginClose
  rw [relay]
  exact List.getElem?_set_self small

def Unlisted (g : Registry) (i : Nat) : Prop := ∀ key, g.find? key ≠ some i

theorem unlisted_removeIfSame (named : ∀ other, g.find? other = some i → other = key) :
    (g.removeIfSame key i).1.Unlisted i := by
  intro other found
  by_cases same : other = key
  · subst same
    unfold removeIfSame at found
    split at found
    · rw [find?_erase] at found
      cases found
    · contradiction
  · rw [(Apart.removeIfSame g key i).entries other same] at found
    exact same (named other found)

end Registry

/-- The feed panicked, or it returned an error that no cancellation explains. -/
def Ending.Fails (ending : Ending) (canceled : Bool) : Prop :=
  ending = .panicked ∨
    ∃ error, ending = .returned (.error error) ∧ error ≠ .canceled ∧ canceled = false

def Outcome.failures (o : Outcome) : Nat := if o = .failed then 1 else 0

namespace Pull

/-- The pull goes by this end of its feed, and by whether it was canceled then. -/
def Concludes (p : Pull) (ending : Ending) (canceled : Bool) : Prop :=
  match p.state with
  | .leaving _ e c | .closing _ e c => e = ending ∧ c = canceled
  | .ended outcome => outcome = (Broker.outcome ending canceled).1
  | _ => False

theorem Concludes.returned {p : Pull} {ending : Ending} {canceled : Bool}
    (h : p.Concludes ending canceled) : p.returned = true := by
  unfold Concludes at h
  unfold Pull.returned
  split at h <;> simp_all

def cleared (p : Pull) : Bool :=
  match p.state with
  | .closing _ _ _ | .ended _ => true
  | _ => false

def failures (p : Pull) : Nat :=
  match p.state with
  | .ended outcome => outcome.failures
  | _ => 0

end Pull

namespace Broker

variable {b m : Broker} {i j guard : Nat} {p q : Pull} {ending : Ending} {canceled : Bool}
  {r : Relay}

theorem outcome_eq_failed_iff :
    (outcome ending canceled).1 = .failed ↔ ending.Fails canceled := by
  cases ending with
  | panicked => simp [outcome, Ending.Fails]
  | returned result =>
    rcases result with e | n
    · cases e <;> cases canceled <;> simp [outcome, Outcome.classify, Ending.Fails]
    · cases n <;> cases canceled <;> simp [outcome, Outcome.classify, Ending.Fails]

def Concluded (m : Broker) (i : Nat) (ending : Ending) (canceled : Bool) (failed : Nat) : Prop :=
  ∃ q, m.pulls[i]? = some q ∧ q.Concludes ending canceled ∧ m.pullsFailed = failed + q.failures

/-- The feed of the pull at `i` has ended so, and the relay at `j` is left. -/
structure Leaves (i j : Nat) (ending : Ending) (canceled : Bool) (failed : Nat) (m : Broker) :
    Prop where
  concluded : m.Concluded i ending canceled failed
  released : ∃ r, m.registry.relays[j]? = some r ∧ r.Released
  unlisted : ∀ q, m.pulls[i]? = some q → q.cleared = true → m.registry.Unlisted j

theorem getElem?_setPull (here : m.pulls[i]? = some q) (state : PullState) :
    (m.setPull i state).pulls[i]? = some { q with state := state } := by
  simp [setPull, updatePull, here]

theorem finishPull_concluded (here : m.pulls[i]? = some q) (p : Pull) (ending : Ending)
    (canceled : Bool) :
    (m.finishPull i p ending canceled).Concluded i ending canceled m.pullsFailed := by
  have counted : (m.finishPull i p ending canceled).pullsFailed =
      m.pullsFailed + Outcome.failures (outcome ending canceled).1 := by
    unfold finishPull
    dsimp only [setPull, updatePull]
    cases (outcome ending canceled).1 <;> rfl
  exact ⟨_, getElem?_setPull here _, rfl, counted⟩

theorem enterLeaving_leaves (here : m.pulls[i]? = some q)
    (relay : m.registry.relays[p.relay]? = some r)
    (named : ∀ key, m.registry.find? key = some p.relay → key = p.key) :
    Leaves i p.relay ending canceled m.pullsFailed
      (m.enterLeaving i p guard ending canceled) := by
  have unlisted : ((m.registry.removeIfSame p.key p.relay).1.beginClose p.relay m.now).1.Unlisted
      p.relay := by
    intro key found
    rw [Registry.find?, Registry.beginClose_table] at found
    exact Registry.unlisted_removeIfSame named key found
  have closed := Registry.relay_beginClose (g := (m.registry.removeIfSame p.key p.relay).1)
    (by rw [Registry.removeIfSame_relays, relay]) m.now
  have released := r.released_beginClose m.now
  unfold enterLeaving
  dsimp only
  split
  · exact ⟨finishPull_concluded (m := { m.leave guard with
      registry := ((m.registry.removeIfSame p.key p.relay).1.beginClose p.relay m.now).1 }) here p
        ending canceled, ⟨_, closed, released⟩, fun _ _ _ => unlisted⟩
  · exact ⟨⟨_, getElem?_setPull here _, ⟨rfl, rfl⟩, rfl⟩, ⟨_, closed, released⟩,
      fun _ _ _ => unlisted⟩

theorem endFeed_leaves (here : m.pulls[i]? = some q)
    (relay : m.registry.relays[p.relay]? = some r)
    (named : ∀ key, m.registry.find? key = some p.relay → key = p.key)
    (heard : ∀ n, r.signal? n = some .pending → n = p.listener) (ending : Ending) :
    Leaves i p.relay ending (m.scopeCanceled p) m.pullsFailed (m.endFeed i p ending) := by
  have retired : (m.registry.updateRelay p.relay
      fun r => r.retire.withdraw p.listener).relays[p.relay]? =
        some (r.retire.withdraw p.listener) := by
    simp [Registry.updateRelay, relay]
  have here' : ((({ m.updateRelay p.relay fun r => r.retire.withdraw p.listener with
      limits := Limits.releaseAll m.limits p.held } : Broker).updatePull i
        fun _ => { p with held := [], watcher := .ended }).enter p.key).1.pulls[i]? =
      some { p with held := [], watcher := .ended } := by
    simp [updatePull, updateRelay, enter, here]
  unfold endFeed
  dsimp only
  split
  · exact enterLeaving_leaves (p := { p with held := [], watcher := .ended }) here' retired named
  · refine ⟨⟨_, getElem?_setPull here' _, ⟨rfl, rfl⟩, rfl⟩,
      ⟨_, retired, Relay.released_retire_withdraw heard⟩, ?_⟩
    intro q there cleared
    cases (getElem?_setPull here' _).symm.trans there
    cases cleared

theorem heard_of_told {listener : Nat} (number : listener = 1) (told : r.roster.Told) (n : Nat)
    (pending : r.signal? n = some .pending) : n = listener := by
  have signals : r.signals = _ := told
  cases n with
  | zero => cases pending
  | succ n =>
    have first : n < 1 := by
      simpa [Relay.signal?, signals] using (List.getElem?_eq_some_iff.mp pending).1
    omega

def FeedContinues (m : Broker) (i failed : Nat) : Prop :=
  ∃ q, m.pulls[i]? = some q ∧ q.returned = false ∧ m.pullsFailed = failed

def Proceeds (i j : Nat) (canceled : Bool) (failed : Nat) (ending? : Option Ending) (m : Broker) :
    Prop :=
  match ending? with
  | none => m.FeedContinues i failed
  | some ending => Leaves i j ending canceled failed m

theorem takeTurn_proceeds (here : m.pulls[i]? = some q) (going : p.returned = false)
    (relay : m.registry.relays[p.relay]? = some r)
    (named : ∀ key, m.registry.find? key = some p.relay → key = p.key)
    (heard : ∀ n, r.signal? n = some .pending → n = p.listener) (turn : Turn) :
    Proceeds i p.relay (m.scopeCanceled p) m.pullsFailed turn.ending (m.takeTurn i p turn) := by
  have wrote : (m.registry.updateRelay p.relay
      fun r => (r.writeAll turn.writes).1).relays[p.relay]? =
        some (r.writeAll turn.writes).1 := by
    simp [Registry.updateRelay, relay]
  have here' : ((m.updateRelay p.relay fun r => (r.writeAll turn.writes).1).updatePull i
      fun _ => { p with written := p.written + sum (turn.writes.map List.length) }).pulls[i]? =
        some { p with written := p.written + sum (turn.writes.map List.length) } := by
    simp [updatePull, updateRelay, here]
  unfold takeTurn
  cases turn.ending with
  | none => exact ⟨_, here', going, rfl⟩
  | some ending =>
    refine endFeed_leaves (p := { p with
      written := p.written + sum (turn.writes.map List.length) }) here' wrote named ?_ ending
    intro n pending
    rw [Relay.signal?_writeAll] at pending
    exact heard n pending

theorem runFeed_proceeds (here : m.pulls[i]? = some q) (going : p.returned = false)
    (relay : m.registry.relays[p.relay]? = some r)
    (named : ∀ key, m.registry.find? key = some p.relay → key = p.key)
    (heard : ∀ n, r.signal? n = some .pending → n = p.listener) :
    Proceeds i p.relay (m.scopeCanceled p) m.pullsFailed
      (p.feed.resume (m.scopeCanceled p) m.now).2.ending (m.runFeed i p) :=
  takeTurn_proceeds (p := { p with feed := (p.feed.resume (m.scopeCanceled p) m.now).1 }) here going
    relay named heard _

theorem enterPull_proceeds (here : m.pulls[i]? = some q)
    (relay : m.registry.relays[p.relay]? = some r)
    (named : ∀ key, m.registry.find? key = some p.relay → key = p.key) (silent : r.signals = []) :
    Proceeds i p.relay (m.scopeCanceled p) m.pullsFailed
      (p.feed.resume (m.scopeCanceled p) m.now).2.ending (m.enterPull i p guard) := by
  have subscribed : (m.registry.updateRelay p.relay fun _ => r.subscribe.1).relays[p.relay]? =
      some r.subscribe.1 := by
    simp [Registry.updateRelay, relay]
  unfold enterPull
  rw [relay]
  dsimp only
  refine runFeed_proceeds (p := { p with
    listener := r.subscribe.2, watcher := .waiting, state := .running })
    (m := (m.updateRelay p.relay fun _ => r.subscribe.1).leave guard) here rfl subscribed named ?_
  intro n pending
  cases n with
  | zero => cases pending
  | succ n =>
    have first : n < 1 := by
      simpa [Relay.subscribe, Relay.signal?, silent] using (List.getElem?_eq_some_iff.mp pending).1
    have number : r.subscribe.2 = 1 := by rw [Relay.subscribe, silent]; rfl
    change n + 1 = r.subscribe.2
    omega

/-- The pull has come to its feed: it holds the lock it has to wait for first, and there is something
for the feed to do. -/
def reachesFeed (b : Broker) (p : Pull) : Bool :=
  match p.state with
  | .starting => (b.enter p.key).1.locks.holds (b.enter p.key).2
  | .queued guard => b.locks.holds guard
  | .running => p.feed.ready (b.scopeCanceled p) b.now
  | _ => false

def turn? (b : Broker) (i : Nat) (p : Pull) : Event → Option Turn
  | .turn k t =>
    match p.state with
    | .running => if k = i then some t else none
    | _ => none
  | .run (.pull k) =>
    if k = i ∧ b.reachesFeed p = true then some (p.feed.resume (b.scopeCanceled p) b.now).2
    else none
  | _ => none

/-- How the feed of the pull at `i` ends, if it ends in this event. -/
def ending? (b : Broker) (i : Nat) (e : Event) : Option Ending :=
  b.pulls[i]?.bind fun p => (b.turn? i p e).bind (·.ending)

theorem ending?_eq {e : Event} (here : b.pulls[i]? = some p) :
    b.ending? i e = (b.turn? i p e).bind (·.ending) := by
  rw [ending?, here]
  rfl

theorem ending?_run (here : b.pulls[i]? = some p) (reaches : b.reachesFeed p = true) :
    b.ending? i (.run (.pull i)) = (p.feed.resume (b.scopeCanceled p) b.now).2.ending := by
  rw [ending?_eq here, turn?, if_pos ⟨rfl, reaches⟩]
  rfl

theorem ending?_run_none (here : b.pulls[i]? = some p) (waits : b.reachesFeed p = false) :
    b.ending? i (.run (.pull i)) = none := by
  rw [ending?_eq here, turn?, if_neg (by simp [waits])]
  rfl

theorem isReady_of_reaches (here : b.pulls[i]? = some p) (reaches : b.reachesFeed p = true) :
    b.isReady (.pull i) = true := by
  have ready : b.pullReady p = true := by
    unfold reachesFeed at reaches
    unfold pullReady
    cases state : p.state with
    | starting => rfl
    | queued | running =>
      rw [state] at reaches
      exact reaches
    | leaving | closing | ended =>
      rw [state] at reaches
      cases reaches
  rwa [isReady, here]

theorem reaches_of_ready (going : p.returned = false) (begun : p.state ≠ .starting)
    (ready : b.pullReady p = true) : b.reachesFeed p = true := by
  unfold pullReady at ready
  unfold reachesFeed
  cases state : p.state with
  | starting => exact absurd state begun
  | queued | running =>
    rw [state] at ready
    exact ready
  | leaving | closing | ended =>
    rw [Pull.returned, state] at going
    cases going

theorem own_of_ending {e : Event} (ends : b.ending? i e = some ending) : e.ofPull i = true := by
  obtain ⟨p, -, ends⟩ := Option.bind_eq_some_iff.mp ends
  obtain ⟨t, turn, -⟩ := Option.bind_eq_some_iff.mp ends
  cases e with
  | turn k t =>
    rw [turn?] at turn
    split at turn
    · by_cases own : k = i
      · simpa [Event.ofPull] using own
      · rw [if_neg own] at turn
        cases turn
    · cases turn
  | run task =>
    cases task with
    | pull k =>
      rw [turn?] at turn
      by_cases own : k = i
      · simpa [Event.ofPull] using own
      · rw [if_neg fun h => own h.1] at turn
        cases turn
    | _ => cases turn
  | _ => cases turn

/-- What a step of a pull comes to. -/
inductive PullStep (b : Broker) (i : Nat) (p : Pull) (e : Event) : Prop
  | still (same : b.step e = b) (lasts : b.ending? i e = none)
  | continues (going : p.returned = false) (continues : (b.step e).FeedContinues i b.pullsFailed)
      (lasts : b.ending? i e = none)
  | ends (ending : Ending) (going : p.returned = false) (ends : b.ending? i e = some ending)
      (leaves : Leaves i p.relay ending (b.scopeCanceled p) b.pullsFailed (b.step e))
  | leaves {guard : Nat} {ending : Ending} {canceled : Bool}
      (leaving : p.state = .leaving guard ending canceled)
      (leaves : Leaves i p.relay ending canceled b.pullsFailed (b.step e))
      (lasts : b.ending? i e = none)
  | finishes {sinks : List SinkPlace} {ending : Ending} {canceled : Bool}
      (closing : p.state = .closing sinks ending canceled)
      (concluded : (b.step e).Concluded i ending canceled b.pullsFailed)
      (lasts : b.ending? i e = none)

theorem PullStep.of_proceeds {e : Event} {end? : Option Ending} (going : p.returned = false)
    (same : b.ending? i e = end?)
    (proceeds : Proceeds i p.relay (b.scopeCanceled p) b.pullsFailed end? (b.step e)) :
    b.PullStep i p e := by
  cases end? with
  | none => exact .continues going proceeds same
  | some ending => exact .ends ending going same proceeds

theorem Sound.named (h : b.Sound) (here : b.pulls[i]? = some p) (key : StreamKey)
    (found : b.registry.find? key = some p.relay) : key = p.key := by
  obtain ⟨s, old, fits⟩ := h.pullsFit.fits i p here
  obtain ⟨t, same, named⟩ := h.listed.named _ (h.listed.find?_eq_some_iff.mp found)
  cases old.symm.trans same
  exact named.symm.trans fits.1.symm

theorem Sound.runPull_step (h : b.Sound) (here : b.pulls[i]? = some p)
    (ready : b.isReady (.pull i) = true) : b.PullStep i p (.run (.pull i)) := by
  obtain ⟨s, old, fits⟩ := h.pullsFit.fits i p here
  obtain ⟨r, relay, rfl⟩ := Registry.relay_of_roster? old
  have named := h.named here
  have stepped : b.step (.run (.pull i)) = b.runPull i := if_pos ready
  have ready' : b.pullReady p = true := by simpa [isReady, here] using ready
  obtain ⟨-, fits⟩ := fits
  cases state : p.state with
  | starting =>
    rw [state] at fits
    have going : p.returned = false := by rw [Pull.returned, state]
    cases held : (b.enter p.key).1.locks.holds (b.enter p.key).2 with
    | true =>
      have reaches : b.reachesFeed p = true := by rw [reachesFeed, state, held]
      apply PullStep.of_proceeds going (ending?_run here reaches)
      rw [stepped]
      simp only [runPull, here, state, held, if_true]
      exact enterPull_proceeds (m := (b.enter p.key).1) here relay named fits.2.2.1
    | false =>
      have waits : b.reachesFeed p = false := by rw [reachesFeed, state, held]
      refine .continues going ?_ (ending?_run_none here waits)
      rw [stepped]
      simp only [runPull, here, state, held]
      exact ⟨_, getElem?_setPull (m := (b.enter p.key).1) here _, rfl, rfl⟩
  | queued guard =>
    rw [state] at fits
    have going : p.returned = false := by rw [Pull.returned, state]
    have reaches := reaches_of_ready going (by simp [state]) ready'
    apply PullStep.of_proceeds going (ending?_run here reaches)
    rw [stepped]
    simp only [runPull, here, state]
    exact enterPull_proceeds here relay named fits.2.2.1
  | running =>
    rw [state] at fits
    have going : p.returned = false := by rw [Pull.returned, state]
    have reaches := reaches_of_ready going (by simp [state]) ready'
    apply PullStep.of_proceeds going (ending?_run here reaches)
    rw [stepped]
    simp only [runPull, here, state]
    exact runFeed_proceeds here going relay named (heard_of_told fits.1 fits.2.1)
  | leaving guard ending canceled =>
    refine .leaves state ?_ (ending?_run_none here (by rw [reachesFeed, state]))
    rw [stepped]
    simp only [runPull, here, state]
    exact enterLeaving_leaves here relay named
  | closing sinks ending canceled =>
    refine .finishes state ?_ (ending?_run_none here (by rw [reachesFeed, state]))
    rw [stepped]
    simp only [runPull, here, state]
    exact finishPull_concluded here p ending canceled
  | ended outcome =>
    refine .still ?_ (ending?_run_none here (by rw [reachesFeed, state]))
    rw [stepped]
    simp only [runPull, here, state]

theorem Sound.runWatcher_step (h : b.Sound) (here : b.pulls[i]? = some p)
    (ready : b.isReady (.watcher i) = true) : b.PullStep i p (.run (.watcher i)) := by
  have ready' : b.watcherReady p = true := by simpa [isReady, here] using ready
  have stepped : b.step (.run (.watcher i)) = b.runWatcher i := if_pos ready
  obtain ⟨s, old, fits⟩ := h.pullsFit.fits i p here
  obtain ⟨running, -⟩ := notified fits old ready'
  have going : p.returned = false := by rw [Pull.returned, running]
  have turn : b.ending? i (.run (.watcher i)) = none := by
    rw [ending?_eq here]
    rfl
  refine .continues going ?_ turn
  rw [stepped]
  simp only [runWatcher, here, ready', if_true]
  have told : (b.updatePull i fun q => { q with
      watcher := .ended, canceled := q.canceled || b.pullSignal q == .fired }).pulls[i]? =
        some { p with watcher := .ended, canceled := p.canceled || b.pullSignal p == .fired } := by
    simp [updatePull, here]
  exact ⟨_, told, going, rfl⟩

theorem Sound.turn_step (h : b.Sound) (here : b.pulls[i]? = some p) (t : Turn) :
    b.PullStep i p (.turn i t) := by
  obtain ⟨s, old, -, fits⟩ := h.pullsFit.fits i p here
  obtain ⟨r, relay, rfl⟩ := Registry.relay_of_roster? old
  have still (other : p.state ≠ .running) : b.PullStep i p (.turn i t) := by
    have same : b.step (.turn i t) = b := by
      change b.turn i t = b
      simp only [Broker.turn, here]
    have turn : b.ending? i (.turn i t) = none := by
      rw [ending?_eq here]
      simp only [turn?, Option.bind_none]
    exact .still same turn
  cases state : p.state with
  | running =>
    rw [state] at fits
    have going : p.returned = false := by rw [Pull.returned, state]
    have turn : b.ending? i (.turn i t) = t.ending := by
      rw [ending?_eq here]
      simp only [turn?, state, if_true, Option.bind_some]
    apply PullStep.of_proceeds going turn
    have stepped : b.step (.turn i t) = b.takeTurn i p t := by
      change b.turn i t = _
      simp only [Broker.turn, here, state]
    rw [stepped]
    exact takeTurn_proceeds here going relay (h.named here) (heard_of_told fits.1 fits.2.1) t
  | _ => exact still (by simp [state])

theorem Sound.pull_step (h : b.Sound) {e : Event} (own : e.ofPull i = true)
    (here : b.pulls[i]? = some p) : b.PullStep i p e := by
  cases e with
  | turn k t =>
    obtain rfl : k = i := by simpa [Event.ofPull] using own
    exact h.turn_step here t
  | run task =>
    by_cases ready : b.isReady task = true
    · cases task with
      | pull k =>
        obtain rfl : k = i := by simpa [Event.ofPull] using own
        exact h.runPull_step here ready
      | watcher k =>
        obtain rfl : k = i := by simpa [Event.ofPull] using own
        exact h.runWatcher_step here ready
      | _ => cases own
    · refine .still (if_neg ready) ?_
      cases task with
      | pull k =>
        obtain rfl : k = i := by simpa [Event.ofPull] using own
        apply ending?_run_none here
        by_contra reaches
        exact ready (isReady_of_reaches here (by simpa using reaches))
      | watcher k =>
        rw [ending?_eq here]
        rfl
      | _ => cases own
  | _ => cases own

theorem PullStep.ending_of_returned {e : Event} (step : b.PullStep i p e)
    (here : b.pulls[i]? = some p) (there : (b.step e).pulls[i]? = some q)
    (going : p.returned = false) (returned : q.returned = true) :
    ∃ ending, b.ending? i e = some ending := by
  cases step with
  | still same =>
    rw [same, here] at there
    cases there
    cases going.symm.trans returned
  | continues _ continues =>
    obtain ⟨q', there', going', -⟩ := continues
    cases there.symm.trans there'
    cases going'.symm.trans returned
  | ends ending _ ends => exact ⟨ending, ends⟩
  | leaves state | finishes state =>
    rw [Pull.returned, state] at going
    cases going

/-- A feed that ends takes its pull and its relay along in the same step. -/
theorem Sound.ends (h : b.Sound) {e : Event} (here : b.pulls[i]? = some p)
    (ends : b.ending? i e = some ending) :
    p.returned = false ∧
      Leaves i p.relay ending (b.scopeCanceled p) b.pullsFailed (b.step e) := by
  cases h.pull_step (own_of_ending ends) here with
  | ends ending' going ends' leaves =>
    cases ends.symm.trans ends'
    exact ⟨going, leaves⟩
  | still _ lasts | continues _ _ lasts | leaves _ _ lasts | finishes _ _ lasts =>
    rw [lasts] at ends
    cases ends

end Broker

end Fanout
