import Fanout.Proofs.Broker.Vacated
import Fanout.Proofs.Registry.Apart

namespace Fanout

def OpenState.rejections : OpenState → Nat
  | .disposing _ _ error | .refused error => if error.isTemporary then 1 else 0
  | _ => 0

def OpenState.pending : OpenState → Bool
  | .starting | .queued _ | .acquiring _ _ _ | .disposing _ _ _ => true
  | _ => false

namespace Broker

variable {b b' m : Broker} {i guard : Nat} {r : Request} {place : SinkPlace} {a : Acquisition}
  {key : StreamKey} {error : OpenError} {o : Opening} {state : OpenState}

structure Footprint (i : Nat) (key : StreamKey) (b b' : Broker) : Prop where
  registry : Registry.Apart key b.registry b'.registry
  pulls : b'.pulls = b.pulls
  started : b'.pullsStarted = b.pullsStarted
  departures : b'.departures = b.departures
  openings : ∀ j, j ≠ i → b'.openings[j]? = b.openings[j]?

namespace Footprint

theorem refl (b : Broker) : Footprint i key b b := ⟨.refl _, rfl, rfl, rfl, fun _ _ => rfl⟩

theorem trans (first : Footprint i key b m) (second : Footprint i key m b') :
    Footprint i key b b' where
  registry := first.registry.trans second.registry
  pulls := second.pulls.trans first.pulls
  started := second.started.trans first.started
  departures := second.departures.trans first.departures
  openings j other := (second.openings j other).trans (first.openings j other)

theorem setOpening (h : Footprint i key b m) (state : OpenState) :
    Footprint i key b (m.setOpening i state) :=
  ⟨h.registry, h.pulls, h.started, h.departures,
    fun j other => (opening_other m state other).trans (h.openings j other)⟩

theorem leave (h : Footprint i key b m) (guard : Nat) : Footprint i key b (m.leave guard) :=
  ⟨h.registry, h.pulls, h.started, h.departures, h.openings⟩

theorem updateSink (h : Footprint i key b m) (named : b.registry.Named key place.1)
    (f : Sink → Sink) : Footprint i key b (m.updateSink place f) :=
  ⟨h.registry.trans (.updateSink (h.registry.named named) f), h.pulls, h.started, h.departures,
    h.openings⟩

theorem detach (h : Footprint i key b m) (named : b.registry.Named key place.1) :
    Footprint i key b (m.detach place).1 := by
  unfold Broker.detach
  split
  · rename_i r' detached
    obtain ⟨r, relay, detached⟩ := Option.bind_eq_some_iff.mp detached
    have named := h.registry.named named
    have same : r'.key = r.key := congrArg (·.key) (Relay.roster_detach detached).2
    have apart : Registry.Apart key m.registry (m.registry.updateRelay place.1 fun _ => r') :=
      .updateRelay named fun _ _ => same.trans (named r relay)
    exact ⟨h.registry.trans apart, h.pulls, h.started, h.departures, h.openings⟩
  · exact h

theorem endRefusal (h : Footprint i key b m) (named : b.registry.Named key place.1)
    (guard : Nat) (error : OpenError) :
    Footprint i key b (m.endRefusal i key guard place error) := by
  have retired : Footprint i key b (m.retireIfEmpty key place.1) :=
    ⟨h.registry.trans (.retireAndRemove (h.registry.named named)), h.pulls, h.started,
      h.departures, h.openings⟩
  exact ((retired.updateSink named Sink.dropReader).leave guard).setOpening _

end Footprint

def Answered (b : Broker) (i : Nat) : Prop := ∃ r place k, b.openings[i]? = some ⟨r, .opened place k⟩

def rejections (b : Broker) (i : Nat) : Nat := (b.openings[i]?.map (·.state.rejections)).getD 0

theorem rejections_of_opening (here : b.openings[i]? = some o) :
    b.rejections i = o.state.rejections := by
  rw [rejections, here]
  rfl

theorem getElem?_endRefusal (here : b.openings[i]? = some o) :
    (b.endRefusal i key guard place error).openings[i]? = some ⟨o.request, .refused error⟩ :=
  getElem?_setOpening (b := ((b.retireIfEmpty key place.1).dropPipe place).leave guard) here _

/-- An open that has not been refused goes on until it is answered or has to wait. -/
structure Advances (i : Nat) (key : StreamKey) (b b' : Broker) : Prop where
  footprint : Footprint i key b b' ∨ b'.Answered i
  counted : b'.capacityRejections = b.capacityRejections + b'.rejections i
  waits : ∀ r, b'.openings[i]? ≠ some ⟨r, .refused .capacityExceeded⟩

namespace Advances

theorem after (first : Footprint i key b m)
    (count : m.capacityRejections = b.capacityRejections) (h : Advances i key m b') :
    Advances i key b b' where
  footprint := h.footprint.imp_left first.trans
  counted := count ▸ h.counted
  waits := h.waits

theorem setOpening (here : m.openings[i]? = some o) (h : Footprint i key b m)
    (count : m.capacityRejections = b.capacityRejections + state.rejections)
    (waits : state ≠ .refused .capacityExceeded) : Advances i key b (m.setOpening i state) where
  footprint := .inl (h.setOpening state)
  counted := by
    rw [rejections_of_opening (getElem?_setOpening here state)]
    exact count
  waits r refused := by
    rw [getElem?_setOpening here, Option.some.injEq, Opening.mk.injEq] at refused
    exact waits refused.2

theorem finishOpen (here : m.openings[i]? = some o)
    (count : m.capacityRejections = b.capacityRejections) :
    Advances i key b (m.finishOpen i r guard place) := by
  have opened : (m.finishOpen i r guard place).openings[i]? =
      some ⟨o.request, .opened place m.departures.length⟩ :=
    getElem?_setOpening (b := { m.leave guard with
      departures := m.departures ++ [{ key := r.key, place := place, token := r.token }] }) here _
  refine ⟨.inr ⟨_, _, _, opened⟩, ?_, fun r refused => ?_⟩
  · rw [rejections, opened]
    exact count
  · rw [opened] at refused
    cases refused

theorem refuse (here : b.openings[i]? = some o) (named : b.registry.Named key place.1)
    (present : error = .capacityExceeded → b.attached place = true) :
    Advances i key b (b.refuse i key guard place error) := by
  rw [refuse_eq]
  generalize count : b.capacityRejections + (if error.isTemporary then 1 else 0) = n
  have left : Footprint i key b ({ b with capacityRejections := n }.detach place).1 :=
    .detach ⟨.refl _, rfl, rfl, rfl, fun _ _ => rfl⟩ named
  rcases detach_cases { b with capacityRejections := n } place with
    ⟨g, detached, -⟩ | ⟨detached, gone⟩
  · rw [detached] at left ⊢
    exact .setOpening here (left.updateSink named _) count.symm nofun
  -- the viewer is gone, so that the open is not refused for want of units
  · rw [detached] at left ⊢
    have other : error ≠ .capacityExceeded := fun same => by
      obtain ⟨s, old, attached⟩ := attached_iff.mp (present same)
      exact gone s old attached
    have ended := left.endRefusal named guard error
    have refused : ({ b with capacityRejections := n }.endRefusal i key guard place
        error).openings[i]? = some ⟨o.request, .refused error⟩ := getElem?_endRefusal here
    refine ⟨.inl ended, by rw [rejections_of_opening refused]; exact count.symm, fun r same => ?_⟩
    rw [refused, Option.some.injEq, Opening.mk.injEq] at same
    exact other (OpenState.refused.inj same.2)

theorem acquire (here : b.openings[i]? = some o) (named : b.registry.Named r.key place.1)
    (present : b.attached place = true) : Advances i r.key b (b.acquire i r guard place a) := by
  have limited (limits : Limits) : Footprint i r.key b { b with limits := limits } :=
    ⟨.refl _, rfl, rfl, rfl, fun _ _ => rfl⟩
  unfold Broker.acquire
  rcases a.poll b.limits b.now with ⟨limits, progress⟩
  cases progress with
  | waiting rest =>
    exact .setOpening (m := { b with limits := limits }) here (limited limits) rfl nofun
  | granted held =>
    exact .finishOpen (b := b) (m := { b with limits := limits }.startPull r place.1 held) here rfl
  | refused error =>
    exact .after (limited limits) rfl
      (.refuse (b := { b with limits := limits }) here named fun _ => present)

theorem enterOpen (l : b.registry.Listed) (here : b.openings[i]? = some o) :
    Advances i r.key b (b.enterOpen i r guard) := by
  unfold Broker.enterOpen
  cases down : b.shutdown with
  | true =>
    rw [attach_of_shutdown down]
    exact .setOpening (m := b.leave guard) here ((Footprint.refl b).leave guard) rfl nofun
  | false =>
    obtain ⟨g, place, first, attached, seated⟩ := attach_seated down r.key
      b.registry.relays.length
    rw [attached]
    cases first with
    | true =>
      obtain ⟨apart, named⟩ := Registry.Apart.seated l seated
      obtain ⟨s, new, -, -, -, present, -⟩ := (seated.seat l).self
      exact .after (m := { b with registry := g }) ⟨apart, rfl, rfl, rfl, fun _ _ => rfl⟩ rfl
        (.acquire (b := { b with registry := g }) here named
          (attached_iff.mpr ⟨s, new, present⟩))
    | false => exact .finishOpen (b := b) (m := { b with registry := g }) here rfl

theorem startOpen (l : b.registry.Listed) (here : b.openings[i]? = some o) :
    Advances i r.key b (b.startOpen i r) := by
  unfold Broker.startOpen
  split
  · exact .setOpening here (.refl b) rfl nofun
  · split
    · exact .setOpening here (.refl b) rfl nofun
    · have entered : Footprint i r.key b
          { b with opens := b.opens + 1, locks := (b.locks.enter r.key).1 } :=
        ⟨.refl _, rfl, rfl, rfl, fun _ _ => rfl⟩
      rw [enter_eq]
      dsimp only
      split
      · exact .after entered rfl (.enterOpen (b := { b with
          opens := b.opens + 1, locks := (b.locks.enter r.key).1 }) l here)
      · exact .setOpening (m := { b with
          opens := b.opens + 1, locks := (b.locks.enter r.key).1 }) here entered rfl nofun

end Advances

theorem Sound.runOpen_advances (h : b.Sound) (here : b.openings[i]? = some o)
    (pending : o.state.pending = true) (fresh : ∀ guard place e, o.state ≠ .disposing guard place e) :
    Advances i o.request.key b (b.runOpen i) := by
  unfold runOpen
  rw [here]
  dsimp only
  cases matched : o.state with
  | starting => exact .startOpen h.listed here
  | queued guard => exact .enterOpen h.listed here
  | acquiring guard place a =>
    obtain ⟨s, old, waits⟩ :=
      h.openingsFit.acquiring i o.request guard place a (by rw [here, ← matched])
    have named : b.registry.Named o.request.key place.1 := .of_roster old waits.key
    dsimp only
    split
    · exact .after (m := { b with limits := a.abandon b.limits })
        ⟨.refl _, rfl, rfl, rfl, fun _ _ => rfl⟩ rfl
        (.refuse (b := { b with limits := a.abandon b.limits }) here named nofun)
    · rename_i up
      refine .acquire here named (attached_iff.mpr ⟨s, old, ?_⟩)
      rcases waits.alone with ⟨-, alone⟩ | ⟨-, -, down⟩
      · simp [alone]
      · exact absurd down up
  | disposing guard place e => exact absurd matched (fresh guard place e)
  | refused e | opened place k | abandoned =>
    rw [matched] at pending
    cases pending

theorem runOpen_disposing (here : b.openings[i]? = some ⟨r, .disposing guard place error⟩) :
    b.runOpen i = b.endRefusal i r.key guard place error := by
  simp only [runOpen, here]

theorem Vacated.find?_endRefusal (h : b.Vacated key place.1) :
    (b.endRefusal i key guard place error).registry.find? key = none := by
  obtain ⟨s, old, -⟩ := h.relay
  have removed : (b.registry.retireAndRemove key place.1).find? key = none :=
    Registry.find?_retireAndRemove fun j entry => by
      obtain ⟨same, empty⟩ := h.entry j entry
      exact ⟨same, s, old, empty s old⟩
  exact removed

theorem Tidy.runOpen_footprint (h : b.Tidy) (here : b.openings[i]? = some o)
    (pending : o.state.pending = true) :
    Footprint i o.request.key b (b.runOpen i) ∨ (b.runOpen i).Answered i := by
  by_cases refused : ∃ guard place e, o.state = .disposing guard place e
  · obtain ⟨guard, place, e, matched⟩ := refused
    obtain ⟨r, state⟩ := o
    subst matched
    obtain ⟨s, old, key⟩ := (h.disposing i r guard place e here).relay
    rw [runOpen_disposing here]
    exact .inl ((Footprint.refl b).endRefusal (.of_roster old key) guard e)
  · exact (h.sound.runOpen_advances here pending fun guard place e matched =>
      refused ⟨guard, place, e, matched⟩).footprint

theorem Tidy.abandonOpen_footprint (h : b.Tidy) (here : b.openings[i]? = some o)
    (pending : o.state.pending = true) : Footprint i o.request.key b (b.abandonOpen i) := by
  obtain ⟨r, state⟩ := o
  unfold abandonOpen
  rw [here]
  dsimp only
  cases state with
  | starting => exact (Footprint.refl b).setOpening _
  | queued guard => exact ((Footprint.refl b).leave guard).setOpening _
  | acquiring guard place a =>
    obtain ⟨s, old, waits⟩ := h.sound.openingsFit.acquiring i r guard place a here
    have named : b.registry.Named r.key place.1 := .of_roster old waits.key
    have left : Footprint i r.key b ({ b with limits := a.abandon b.limits }.detach place).1 :=
      .detach ⟨.refl _, rfl, rfl, rfl, fun _ _ => rfl⟩ named
    have retired {m : Broker} (h : Footprint i r.key b m) : Footprint i r.key b
        ((({ m with registry := (m.registry.retireEntry place.1).1 }.dropPipe place).leave
          guard).setOpening i .abandoned) := by
      have retired : Footprint i r.key b
          { m with registry := (m.registry.retireEntry place.1).1 } :=
        ⟨h.registry.trans (.retireEntry (h.registry.named named)), h.pulls, h.started,
          h.departures, h.openings⟩
      exact ((retired.updateSink named _).leave guard).setOpening _
    dsimp only
    rcases detached : { b with limits := a.abandon b.limits }.detach place with ⟨m, attached⟩
    rw [detached] at left ⊢
    cases attached with
    | true => exact retired (left.updateSink named _)
    | false => exact retired left
  | disposing guard place e =>
    obtain ⟨s, old, key⟩ := (h.disposing i r guard place e here).relay
    have named : b.registry.Named r.key place.1 := .of_roster old key
    exact ((((Footprint.refl b).updateSink named _).updateSink named _).leave guard).setOpening _
  | refused e | opened place k | abandoned => cases pending

end Broker

end Fanout
