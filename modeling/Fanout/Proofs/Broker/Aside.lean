import Fanout.Proofs.Broker.Event
import Fanout.Proofs.Registry.Apart

namespace Fanout

namespace Registry

variable {g g' g'' : Registry} {j : Nat}

@[simp] theorem find?_erase (g : Registry) (key : StreamKey) : (g.erase key).find? key = none := by
  simp [find?, erase]

/-- Only the relay at `j` may change, and only its entry may go. -/
structure Beside (j : Nat) (g g' : Registry) : Prop where
  relays : ∀ k, k ≠ j → g'.relays[k]? = g.relays[k]?
  entries : ∀ key k, k ≠ j → (g'.find? key = some k ↔ g.find? key = some k)

namespace Beside

theorem refl (g : Registry) : Beside j g g := ⟨fun _ _ => rfl, fun _ _ _ => .rfl⟩

theorem trans (first : Beside j g g') (second : Beside j g' g'') : Beside j g g'' where
  relays k other := (second.relays k other).trans (first.relays k other)
  entries key k other := (second.entries key k other).trans (first.entries key k other)

theorem updateRelay (g : Registry) (j : Nat) (f : Relay → Relay) :
    Beside j g (g.updateRelay j f) := by
  refine ⟨?_, fun _ _ _ => .rfl⟩
  intro k other
  simp [Registry.updateRelay, other.symm]

theorem removeIfSame (g : Registry) (key : StreamKey) (j : Nat) :
    Beside j g (g.removeIfSame key j).1 := by
  unfold Registry.removeIfSame
  split
  · rename_i named
    refine ⟨fun _ _ => rfl, ?_⟩
    intro key' k other
    by_cases same : key' = key
    · subst same
      rw [find?_erase, named, Option.some.injEq]
      exact ⟨nofun, fun same => absurd same.symm other⟩
    · rw [(Apart.erase g key).entries key' same]
  · exact refl g

theorem beginClose (g : Registry) (j now : Nat) : Beside j g (g.beginClose j now).1 := by
  unfold Registry.beginClose
  split
  · refine ⟨?_, fun _ _ _ => .rfl⟩
    intro k other
    exact List.getElem?_set_ne other.symm
  · exact refl g

end Beside

end Registry

def Event.ofPull (i : Nat) : Event → Bool
  | .run (.pull k) | .run (.watcher k) | .turn k _ => k == i
  | _ => false

namespace Broker

variable {b b' m : Broker} {i j : Nat} {p : Pull} {e : Event}

def bystanders (b : Broker) : Broker :=
  { b with registry := {}, locks := {}, limits := [], pulls := [], pullsFailed := 0, reports := [] }

structure Aside (i j : Nat) (b b' : Broker) : Prop where
  registry : Registry.Beside j b.registry b'.registry
  pulls : ∀ k, k ≠ i → b'.pulls[k]? = b.pulls[k]?
  bystanders : b'.bystanders = b.bystanders

namespace Aside

theorem refl (b : Broker) : Aside i j b b := ⟨.refl _, fun _ _ => rfl, rfl⟩

theorem updateRelay (h : Aside i j b m) (f : Relay → Relay) : Aside i j b (m.updateRelay j f) :=
  ⟨h.registry.trans (.updateRelay _ j f), h.pulls, h.bystanders⟩

theorem leave (h : Aside i j b m) (guard : Nat) : Aside i j b (m.leave guard) :=
  ⟨h.registry, h.pulls, h.bystanders⟩

theorem enter (h : Aside i j b m) (key : StreamKey) : Aside i j b (m.enter key).1 :=
  ⟨h.registry, h.pulls, h.bystanders⟩

theorem updatePull (h : Aside i j b m) (f : Pull → Pull) : Aside i j b (m.updatePull i f) := by
  refine ⟨h.registry, ?_, h.bystanders⟩
  intro k other
  have kept : (m.updatePull i f).pulls[k]? = m.pulls[k]? := by simp [Broker.updatePull, other.symm]
  exact kept.trans (h.pulls k other)

theorem setPull (h : Aside i j b m) (state : PullState) : Aside i j b (m.setPull i state) :=
  h.updatePull _

theorem finishPull (h : Aside i j b m) (p : Pull) (ending : Ending) (canceled : Bool) :
    Aside i j b (m.finishPull i p ending canceled) := by
  have counted : Aside i j b
      { m with
        pullsFailed := if (outcome ending canceled).1 = .failed then m.pullsFailed + 1
          else m.pullsFailed
        reports := m.reports ++ [⟨p.key, p.feed.label, (outcome ending canceled).1, p.written,
          (outcome ending canceled).2⟩] } :=
    ⟨h.registry, h.pulls, h.bystanders⟩
  exact counted.setPull _

theorem enterLeaving (h : Aside i p.relay b m) (guard : Nat) (ending : Ending) (canceled : Bool) :
    Aside i p.relay b (m.enterLeaving i p guard ending canceled) := by
  have removed : Registry.Beside p.relay b.registry
      ((m.registry.removeIfSame p.key p.relay).1.beginClose p.relay m.now).1 :=
    (h.registry.trans (.removeIfSame _ _ _)).trans (.beginClose _ _ _)
  have closed : Aside i p.relay b
      { m.leave guard with
        registry := ((m.registry.removeIfSame p.key p.relay).1.beginClose p.relay m.now).1 } :=
    ⟨removed, h.pulls, h.bystanders⟩
  unfold Broker.enterLeaving
  dsimp only
  split
  · exact closed.finishPull p ending canceled
  · exact closed.setPull _

theorem endFeed (h : Aside i p.relay b m) (ending : Ending) :
    Aside i p.relay b (m.endFeed i p ending) := by
  have retired := h.updateRelay fun r => r.retire.withdraw p.listener
  have released : Aside i p.relay b
      { m.updateRelay p.relay fun r => r.retire.withdraw p.listener with
        limits := Limits.releaseAll m.limits p.held } :=
    ⟨retired.registry, retired.pulls, retired.bystanders⟩
  have entered := (released.updatePull fun _ => { p with held := [], watcher := .ended }).enter p.key
  unfold Broker.endFeed
  dsimp only
  split
  · exact entered.enterLeaving (p := { p with held := [], watcher := .ended }) _ ending _
  · exact entered.setPull _

theorem takeTurn (h : Aside i p.relay b m) (turn : Turn) :
    Aside i p.relay b (m.takeTurn i p turn) := by
  have wrote := (h.updateRelay fun r => (r.writeAll turn.writes).1).updatePull
    fun _ => { p with written := p.written + sum (turn.writes.map List.length) }
  unfold Broker.takeTurn
  dsimp only
  split
  · exact wrote
  · exact wrote.endFeed (p := { p with
      written := p.written + sum (turn.writes.map List.length) }) _

theorem runFeed (h : Aside i p.relay b m) : Aside i p.relay b (m.runFeed i p) :=
  h.takeTurn (p := { p with feed := (p.feed.resume (m.scopeCanceled p) m.now).1 }) _

theorem enterPull (h : Aside i p.relay b m) (guard : Nat) :
    Aside i p.relay b (m.enterPull i p guard) := by
  unfold Broker.enterPull
  split
  · exact h
  · rename_i r relay
    exact ((h.updateRelay fun _ => r.subscribe.1).leave guard).runFeed (p := { p with
      listener := r.subscribe.2, watcher := .waiting, state := .running })

end Aside

theorem runPull_aside (here : b.pulls[i]? = some p) : Aside i p.relay b (b.runPull i) := by
  have start : Aside i p.relay b b := .refl b
  unfold runPull
  rw [here]
  dsimp only
  split
  · split
    · exact (start.enter p.key).enterPull _
    · exact (start.enter p.key).setPull _
  · exact start.enterPull _
  · exact start.runFeed
  · exact start.enterLeaving _ _ _
  · exact start.finishPull _ _ _
  · exact start

theorem runWatcher_aside : Aside i j b (b.runWatcher i) := by
  unfold runWatcher
  split
  · exact .refl b
  · split
    · exact (Aside.refl b).updatePull _
    · exact .refl b

theorem turn_aside (here : b.pulls[i]? = some p) (t : Turn) : Aside i p.relay b (b.turn i t) := by
  unfold turn
  rw [here]
  dsimp only
  split
  · exact (Aside.refl b).takeTurn t
  · exact .refl b

theorem closer_aside (b : Broker) (i : Nat) (place : SinkPlace) :
    Aside i place.1 b (b.step (.run (.closer place))) := by
  simp only [step]
  split
  · exact (Aside.refl b).updateRelay _
  · exact .refl b

/-- The steps of a pull concern nothing but the pull itself and its own relay. -/
theorem step_aside (own : e.ofPull i = true) (here : b.pulls[i]? = some p) :
    Aside i p.relay b (b.step e) := by
  cases e with
  | turn k t =>
    obtain rfl : k = i := by simpa [Event.ofPull] using own
    exact turn_aside here t
  | run task =>
    simp only [step]
    split
    · cases task with
      | pull k =>
        obtain rfl : k = i := by simpa [Event.ofPull] using own
        exact runPull_aside here
      | watcher k =>
        obtain rfl : k = i := by simpa [Event.ofPull] using own
        exact runWatcher_aside
      | _ => cases own
    · exact .refl b
  | _ => cases own

theorem step_absent (own : e.ofPull i = true) (absent : b.pulls[i]? = none) : b.step e = b := by
  cases e with
  | turn k t =>
    obtain rfl : k = i := by simpa [Event.ofPull] using own
    simp only [step, turn, absent]
  | run task =>
    cases task with
    | pull k | watcher k =>
      obtain rfl : k = i := by simpa [Event.ofPull] using own
      exact if_neg (by simp [isReady, absent])
    | _ => cases own
  | _ => cases own

end Broker

end Fanout
