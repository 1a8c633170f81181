import Fanout.Proofs.Broker.StepwiseBroker

namespace Fanout

namespace Broker

variable {b : Broker} {key : StreamKey} {i guard : Nat} {r : Request} {place : SinkPlace}

def seatFor (key : StreamKey) : Nat → Broker × Seating → Broker × Seating
  | n + 1, (b, .going pass action) => seatFor key n (b.seat key pass action)
  | _, s => s

/-- With nothing in between the loop attaches the viewer. Two attempts are as good as any number. -/
theorem seatFor_eq_attach (b : Broker) (key : StreamKey) (n : Nat) :
    ∃ passes ≤ 2, seatFor key 4 (b, b.beginPass 0) =
      ((b.attach key (n + 2)).1, .ended passes (b.attach key (n + 2)).2) := by
  cases down : b.shutdown with
  | true => exact ⟨0, Nat.zero_le 2, by simp [attach_of_shutdown down, beginPass, down, seatFor]⟩
  | false =>
    have begun : b.beginPass 0 = .going 1 .look := by simp [beginPass, down]
    cases entry : b.registry.find? key with
    | none =>
      obtain ⟨r', added, made⟩ := seat_make entry 1
      obtain ⟨r'', id, first, added', attached⟩ := attach_vacant down entry (n + 1)
      cases added.symm.trans added'
      refine ⟨1, by decide, ?_⟩
      rw [begun, attached]
      simp only [seatFor, seat_look_of_none entry, made]
    | some j =>
      cases added : b.registry.relays[j]?.bind
          (·.add { capacity := max b.config.pipeCapacity 1 }) with
      | some answer =>
        obtain ⟨r', id, first⟩ := answer
        have attached : b.attach key (n + 2) =
            ({ b with registry := b.registry.updateRelay j fun _ => r' }, .as (j, id) first) := by
          simp [attach, down, Registry.getOrCreate, entry, added]
        refine ⟨1, by decide, ?_⟩
        rw [begun, attached]
        simp only [seatFor, seat_look_of_some entry, offer_of_added added]
      | none =>
        let erased : Broker := { b with registry := (b.registry.removeIfSame key j).1 }
        have vacant : erased.registry.find? key = none :=
          Registry.find?_removeIfSame fun k found => Option.some.inj (found.symm.trans entry)
        have again : b.attach key (n + 2) = erased.attach key (n + 1) := by
          rw [attach]
          simp [down, Registry.getOrCreate, entry, added, erased]
        have replaced : b.seat key 1 (.replace j) = (erased, .going 2 .look) := by
          simp [seat, beginPass, down, erased]
        obtain ⟨r', added', made⟩ := seat_make vacant 2
        obtain ⟨r'', id, first, added'', attached⟩ := attach_vacant (b := erased) down vacant n
        cases added'.symm.trans added''
        refine ⟨2, Nat.le_refl 2, ?_⟩
        rw [begun, again, attached]
        simp only [seatFor, seat_look_of_some entry, offer_of_refused added, replaced,
          seat_look_of_none vacant, made]

theorem setOpening_setOpening (b : Broker) (i : Nat) (s t : OpenState) :
    (b.setOpening i s).setOpening i t = b.setOpening i t := by
  have same := overwrite (f := fun o : Opening => { o with state := s })
    (g := fun o => { o with state := t }) b.openings i fun _ => rfl
  simp only [setOpening, ← same]

theorem finishOpen_setOpening (b : Broker) (s : OpenState) :
    (b.setOpening i s).finishOpen i r guard place = b.finishOpen i r guard place :=
  setOpening_setOpening
    { b.leave guard with
      departures := b.departures ++ [{ key := r.key, place := place, token := r.token }] } i s _

theorem endRefusal_setOpening (b : Broker) (s : OpenState) (error : OpenError) :
    (b.setOpening i s).endRefusal i key guard place error =
      b.endRefusal i key guard place error :=
  setOpening_setOpening (((b.retireIfEmpty key place.1).dropPipe place).leave guard) i s _

theorem detach_setOpening (b : Broker) (s : OpenState) :
    (b.setOpening i s).detach place = ((b.detach place).1.setOpening i s, (b.detach place).2) := by
  simp only [detach, setOpening]
  split <;> rfl

theorem refuse_setOpening (b : Broker) (s : OpenState) (error : OpenError) :
    (b.setOpening i s).refuse i key guard place error = b.refuse i key guard place error := by
  rw [refuse_eq, refuse_eq]
  have counted (n : Nat) : { b.setOpening i s with capacityRejections := n } =
      { b with capacityRejections := n }.setOpening i s := rfl
  have count : (b.setOpening i s).capacityRejections = b.capacityRejections := rfl
  rw [counted, count, detach_setOpening]
  generalize b.capacityRejections + _ = n
  generalize Broker.detach _ place = answer
  obtain ⟨m, detached⟩ := answer
  cases detached with
  | true => exact setOpening_setOpening (m.updateSink place (·.beginClose 0 m.now)) i s _
  | false => exact endRefusal_setOpening m s error

theorem acquire_setOpening (b : Broker) (s : OpenState) (a : Acquisition) :
    (b.setOpening i s).acquire i r guard place a = b.acquire i r guard place a := by
  have polled : a.poll (b.setOpening i s).limits (b.setOpening i s).now = a.poll b.limits b.now :=
    rfl
  unfold acquire
  rw [polled]
  rcases a.poll b.limits b.now with ⟨limits, progress⟩
  cases progress with
  | waiting rest => exact setOpening_setOpening { b with limits := limits } i s _
  | granted held =>
    exact finishOpen_setOpening ({ b with limits := limits }.startPull r place.1 held) s
  | refused error => exact refuse_setOpening { b with limits := limits } s _

theorem conclude_setOpening (b : Broker) (s : OpenState) (result : Attached) :
    (b.setOpening i s).conclude i r guard result = b.conclude i r guard result := by
  cases result with
  | shutDown | never => exact setOpening_setOpening (b.leave guard) i s _
  | as place first =>
    cases first with
    | false => exact finishOpen_setOpening b s
    | true =>
      simp only [conclude]
      have down : (b.setOpening i s).shutdown = b.shutdown := rfl
      rw [down]
      split
      · exact refuse_setOpening b s _
      · exact acquire_setOpening b s _

theorem attach_setOpening (b : Broker) (s : OpenState) (n : Nat) :
    (b.setOpening i s).attach key n = ((b.attach key n).1.setOpening i s, (b.attach key n).2) := by
  induction n generalizing b with
  | zero => rfl
  | succ n ih =>
    have same : (b.setOpening i s).shutdown = b.shutdown ∧
        (b.setOpening i s).registry = b.registry ∧ (b.setOpening i s).config = b.config :=
      ⟨rfl, rfl, rfl⟩
    simp only [attach, same]
    split
    · rfl
    · split
      · rfl
      · exact ih { b with registry :=
          ((b.registry.getOrCreate key).1.removeIfSame key (b.registry.getOrCreate key).2.1).1 }

theorem enterOpen_eq (b : Broker) (i : Nat) (r : Request) (guard : Nat) :
    b.enterOpen i r guard =
      (b.attach r.key (b.registry.relays.length + 2)).1.conclude i r guard
        (b.attach r.key (b.registry.relays.length + 2)).2 := by
  unfold enterOpen
  cases down : b.shutdown with
  | true =>
    rw [attach_of_shutdown down]
    rfl
  | false =>
    obtain ⟨g, place, first, attached, -⟩ := attach_seated down r.key b.registry.relays.length
    rw [attached]
    cases first with
    | true => simp [conclude, down, Request.units]
    | false => rfl

theorem enterOpen_setOpening (b : Broker) (s : OpenState) :
    (b.setOpening i s).enterOpen i r guard = b.enterOpen i r guard := by
  rw [enterOpen_eq, enterOpen_eq, attach_setOpening]
  exact conclude_setOpening _ s _

theorem seat_keeps (b : Broker) (key : StreamKey) (pass : Nat) (action : TableAction) :
    (b.seat key pass action).1.openings = b.openings ∧
      (b.seat key pass action).1.locks = b.locks := by
  have offered (b : Broker) (i : Nat) :
      (b.offer pass i).1.openings = b.openings ∧ (b.offer pass i).1.locks = b.locks := by
    unfold offer
    split <;> exact ⟨rfl, rfl⟩
  cases action with
  | look =>
    simp only [seat]
    split
    · exact offered b _
    · exact ⟨rfl, rfl⟩
  | make => exact offered _ _
  | replace i => exact ⟨rfl, rfl⟩

end Broker

namespace StepwiseBroker

variable {f : StepwiseBroker} {i guard : Nat} {r : Request}

def Idle (f : StepwiseBroker) : Prop :=
  ∀ i pass action, f.seatings i ≠ some (.going pass action)

theorem Idle.update {b : Broker} (idle : f.Idle) (i : Nat) {s : Option Seating}
    (out : ∀ pass action, s ≠ some (.going pass action)) :
    Idle ⟨b, Function.update f.seatings i s⟩ := by
  intro j pass action
  by_cases same : j = i
  · subst same
    simpa using out pass action
  · simpa [same] using idle j pass action

theorem settle_seatFor (n : Nat) (s : Broker × Seating)
    (here : s.1.openings[i]? = some ⟨r, .queued guard⟩) (held : s.1.locks.holds guard = true)
    {b : Broker} {passes : Nat} {result : Broker.Attached}
    (ends : Broker.seatFor r.key n s = (b, .ended passes result)) :
    ∃ k, (f.settle i r guard s).after (.replicate k (.run (.opening i))) =
      f.settle i r guard (b, .ended passes result) := by
  induction n generalizing s with
  | zero => exact ⟨0, by rw [← ends]; rfl⟩
  | succ n ih =>
    obtain ⟨m, seating⟩ := s
    cases seating with
    | ended p res =>
      refine ⟨0, ?_⟩
      rw [← ends]
      rfl
    | going pass action =>
      obtain ⟨openings, locks⟩ := Broker.seat_keeps m r.key pass action
      obtain ⟨k, rest⟩ := ih (m.seat r.key pass action) (by rw [openings]; exact here)
        (by rw [locks]; exact held) ends
      refine ⟨k + 1, ?_⟩
      have next : (f.settle i r guard (m, .going pass action)).step (.run (.opening i)) =
          f.settle i r guard (m.seat r.key pass action) := by
        rw [step_queued here held, seek_going (Function.update_self ..)]
        simp only [settle]
        rcases m.seat r.key pass action with ⟨m', _ | _⟩ <;> simp only [Function.update_idem]
      rw [List.replicate_succ, after_cons, next]
      exact rest

theorem exists_enterOpen (idle : f.Idle)
    (here : f.broker.openings[i]? = some ⟨r, .queued guard⟩)
    (held : f.broker.locks.holds guard = true) :
    ∃ slow, (f.after slow).broker = f.broker.enterOpen i r guard ∧ (f.after slow).Idle := by
  obtain ⟨passes, -, ends⟩ := f.broker.seatFor_eq_attach r.key f.broker.registry.relays.length
  obtain ⟨k, rest⟩ := settle_seatFor (f := f) 4 (f.broker, f.broker.beginPass 0) here held ends
  have first : f.step (.run (.opening i)) =
      f.settle i r guard (f.broker, f.broker.beginPass 0) := by
    rw [step_queued here held, seek_first (idle i)]
  refine ⟨.replicate (k + 1) (.run (.opening i)), ?_⟩
  rw [List.replicate_succ, after_cons, first, rest, Broker.enterOpen_eq]
  exact ⟨rfl, idle.update i nofun⟩

theorem exists_startOpen (idle : f.Idle) (here : f.broker.openings[i]? = some ⟨r, .starting⟩)
    (admitted : (r.key.isBlank || f.broker.shutdown) = false) :
    ∃ slow, (f.after slow).broker = f.broker.startOpen i r ∧ (f.after slow).Idle := by
  let line : Broker := { f.broker with
    opens := f.broker.opens + 1, locks := (f.broker.locks.enter r.key).1 }
  let guard := (f.broker.locks.enter r.key).2
  have first : f.step (.run (.opening i)) =
      { f with broker := line.setOpening i (.queued guard) } := step_starting here admitted
  have coarse : f.broker.startOpen i r =
      if line.locks.holds guard then line.enterOpen i r guard
      else line.setOpening i (.queued guard) := by
    obtain ⟨named, up⟩ := Bool.or_eq_false_iff.mp admitted
    unfold Broker.startOpen
    rw [if_neg (ne_true_of_eq_false named), if_neg (ne_true_of_eq_false up)]
    rfl
  rw [coarse]
  split
  · rename_i held
    obtain ⟨slow, same, still⟩ := exists_enterOpen
      (f := { f with broker := line.setOpening i (.queued guard) }) idle
      (Broker.getElem?_setOpening here _) held
    refine ⟨.run (.opening i) :: slow, ?_, ?_⟩
    · rw [after_cons, first, same]
      exact Broker.enterOpen_setOpening line _
    · rw [after_cons, first]
      exact still
  · refine ⟨[.run (.opening i)], ?_, ?_⟩
    · rw [after_cons, after_nil, first]
    · rw [after_cons, after_nil, first]
      exact idle

theorem exists_step (idle : f.Idle) (e : Event) :
    ∃ slow, (f.after slow).broker = f.broker.step e ∧ (f.after slow).Idle := by
  have once (coarse : f.step e = { f with broker := f.broker.step e }) :
      ∃ slow, (f.after slow).broker = f.broker.step e ∧ (f.after slow).Idle :=
    ⟨[e], by rw [after_cons, after_nil, coarse], by rw [after_cons, after_nil, coarse]; exact idle⟩
  cases e with
  | run task =>
    cases task with
    | opening i =>
      cases here : f.broker.openings[i]? with
      | none => exact once (step_apart (by simp [here]))
      | some o =>
        obtain ⟨r, state⟩ := o
        cases state with
        | starting =>
          cases out : r.key.isBlank || f.broker.shutdown with
          | true => exact once (step_refused here out)
          | false =>
            have coarse : f.broker.step (.run (.opening i)) = f.broker.startOpen i r := by
              simp [Broker.step, Broker.isReady, Broker.openReady, Broker.run, Broker.runOpen, here]
            rw [coarse]
            exact exists_startOpen idle here out
        | queued guard =>
          cases held : f.broker.locks.holds guard with
          | true =>
            have coarse : f.broker.step (.run (.opening i)) = f.broker.enterOpen i r guard := by
              simp [Broker.step, Broker.isReady, Broker.openReady, Broker.run, Broker.runOpen, here,
                held]
            rw [coarse]
            exact exists_enterOpen idle here held
          | false =>
            have coarse : f.broker.step (.run (.opening i)) = f.broker := by
              simp [Broker.step, Broker.isReady, Broker.openReady, here, held]
            exact ⟨[], coarse.symm, idle⟩
        | acquiring | disposing | refused | opened | abandoned =>
          exact once (step_apart (by simp [here, OpenState.seeking]))
    | _ => exact once rfl
  | abandon call =>
    cases call with
    | opening i => exact ⟨[.abandon (.opening i)], rfl, idle.update i (by simp)⟩
    | _ => exact once rfl
  | _ => exact once rfl

/-- Whatever a broker does, a stepwise broker does in which nobody comes between the waits of
the loop. -/
theorem exists_after (idle : f.Idle) (events : List Event) :
    ∃ slow, (f.after slow).broker = f.broker.after events := by
  induction events generalizing f with
  | nil => exact ⟨[], rfl⟩
  | cons e events ih =>
    obtain ⟨first, same, still⟩ := exists_step idle e
    obtain ⟨rest, reached⟩ := ih still
    refine ⟨first ++ rest, ?_⟩
    rw [after_append, reached, same, Broker.after_cons]

end StepwiseBroker

end Fanout
