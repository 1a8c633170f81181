import Fanout.Proofs.Broker.Shutdown

namespace Fanout.Broker

variable {b : Broker} {k : Nat} {e : Event} {events : List Event}

/-- The call at `k` found the broker shut down already. It returned in its first step, which changed
nothing but the call. -/
def Belated (b : Broker) (events : List Event) (k : Nat) : Prop :=
  ∃ before later, events = before ++ .run (.close k) :: later ∧
    (b.after before).shutdown = true ∧ (b.after before).closes[k]? = some .starting ∧
    b.after (before ++ [.run (.close k)]) = (b.after before).setClose k .ended

theorem Belated.later (h : b.Belated events k) (more : List Event) :
    b.Belated (events ++ more) k := by
  obtain ⟨before, rest, rfl, down, starting, returned⟩ := h
  exact ⟨before, rest ++ more, by simp, down, starting, returned⟩

theorem runClose_of_shutdown (here : b.closes[k]? = some .starting) (down : b.shutdown = true) :
    b.runClose k = b.setClose k .ended := by
  simp [runClose, here, down]

theorem getElem?_abandonClose {state : CloseState} (here : b.closes[k]? = some state)
    (going : state ≠ .ended) : (b.abandonClose k).closes[k]? = some .abandoned := by
  cases state with
  | ended => exact absurd rfl going
  | starting | closing | draining | abandoned => simp [abandonClose, here, setClose]

theorem close_untouched (run : e ≠ .run (.close k)) (kept : e ≠ .abandon (.close k)) :
    (b.step e).closes[k]? = b.closes[k]? ∨ (b.step e).closes[k]? = some .starting := by
  cases foreign : e.ofClose with
  | false => exact .inl (by rw [closes_foreign foreign])
  | true =>
    cases e with
    | close =>
      simp only [step, requestClose, List.getElem?_append]
      split
      · exact .inl rfl
      · rename_i beyond
        cases k - b.closes.length with
        | zero => exact .inr rfl
        | succ n => exact .inl (List.getElem?_eq_none (Nat.le_of_not_lt beyond)).symm
    | run task =>
      cases task with
      | close i =>
        have differs : i ≠ k := fun same => run (same ▸ rfl)
        simp only [step]
        split
        · exact .inl (runClose_other b differs)
        · exact .inl rfl
      | _ => cases foreign
    | abandon call =>
      cases call with
      | close i =>
        have differs : i ≠ k := fun same => kept (same ▸ rfl)
        exact .inl (abandonClose_other b differs)
      | _ => cases foreign
    | _ => cases foreign

theorem Sound.close_cases (h : b.Sound) (fresh : b.closes = []) (events : List Event)
    {state : CloseState} (there : (b.after events).closes[k]? = some state) :
    state = .starting ∨ state = .abandoned ∨ (b.after events).Closing k ∨ b.Belated events k := by
  induction events using List.reverseRecOn generalizing state with
  | nil =>
    rw [after_nil, fresh] at there
    cases there
  | append_singleton events e ih =>
    rw [after_concat] at there ⊢
    have sound := h.after events
    -- the step keeps what is known of a call that has begun
    have kept {before : CloseState} (here : (b.after events).closes[k]? = some before)
        (same : before = .starting → state = .starting ∨ state = .abandoned)
        (given : before = .abandoned → state = .abandoned) :
        state = .starting ∨ state = .abandoned ∨ ((b.after events).step e).Closing k ∨
          b.Belated (events ++ [e]) k := by
      rcases ih here with starting | abandoned | closing | belated
      · rcases same starting with starting | abandoned
        · exact .inl starting
        · exact .inr (.inl abandoned)
      · exact .inr (.inl (given abandoned))
      · exact .inr (.inr (.inl (closing.step sound e)))
      · exact .inr (.inr (.inr (belated.later [e])))
    by_cases run : e = .run (.close k)
    · subst run
      cases here : (b.after events).closes[k]? with
      | none =>
        simp [Broker.step, isReady, here] at there
      | some before =>
        by_cases starting : before = .starting
        · subst starting
          have ready : (b.after events).isReady (.close k) = true := by simp [isReady, here, closeReady]
          have stepped : (b.after events).step (.run (.close k)) = (b.after events).runClose k :=
            if_pos ready
          cases down : (b.after events).shutdown with
          | true =>
            refine .inr (.inr (.inr ⟨events, [], rfl, down, here, ?_⟩))
            rw [after_concat, stepped, runClose_of_shutdown here down]
          | false => exact .inr (.inr (.inl (stepped ▸ .begin down here)))
        · refine kept here (absurd · starting) fun abandoned => ?_
          subst abandoned
          simp only [Broker.step, isReady, here, Option.any_some, closeReady, Bool.false_eq_true, if_false,
            Option.some.injEq] at there
          exact there.symm
    · by_cases given : e = .abandon (.close k)
      · subst given
        change ((b.after events).abandonClose k).closes[k]? = some state at there
        cases here : (b.after events).closes[k]? with
        | none => simp [abandonClose, here] at there
        | some before =>
          have gone (going : before ≠ .ended) : state = .abandoned :=
            Option.some.inj (there.symm.trans (getElem?_abandonClose here going))
          refine kept here (fun starting => .inr (gone ?_)) fun abandoned => gone ?_
          · simp [starting]
          · simp [abandoned]
      · rcases close_untouched (b := b.after events) run given with same | starting
        · exact kept (same ▸ there) .inl id
        · exact .inl (Option.some.inj (there.symm.trans starting))

/-- A call that has returned is a barrier, unless it came when the broker was shut down already. -/
theorem over_unless_belated (config : BrokerConfig) (caps : List (String × Nat))
    (events : List Event) (k : Nat) :
    let start := Broker.new config (caps.map fun c => .new c.1 c.2)
    (start.after events).closes[k]? = some .ended →
      (∀ p ∈ (start.after events).pulls, (start.after events).Over p) ∨ start.Belated events k := by
  intro start ended
  have sound : start.Sound := .initial config _
  have funded : start.Funded := ⟨.fresh caps, by simp [start, new]⟩
  have backed := sound.backs_after funded events .nil
  rcases sound.close_cases rfl events ended with starting | abandoned | closing | belated
  · cases starting
  · cases abandoned
  · obtain ⟨state, here, -, drained⟩ := closing.call
    cases here.symm.trans ended
    left
    intro p member
    exact (sound.after events).over_of_drained backed (drained rfl) member
  · exact .inr belated

def overlap : List Event := come 0 ++ [.close, .run (.close 0), .close, .run (.close 1)]

/-- The first call is given up before the second one is made. -/
def handover : List Event :=
  come 0 ++ [.close, .run (.close 0), .abandon (.close 0), .close, .run (.close 1)]

/-- The second call has returned, and the feed still runs and has its unit, whether the first call
waits for it or is given up. -/
theorem running_after_close :
    ((Broker.new {} [.new "g" 1]).after overlap).closes =
        [.closing [(0, 1)], .ended] ∧
      ((Broker.new {} [.new "g" 1]).after overlap).pulls.map
        (fun p => (p.returned, p.held)) = [(false, [⟨0, 1⟩])] ∧
      ((Broker.new {} [.new "g" 1]).after handover).closes = [.abandoned, .ended] ∧
      ((Broker.new {} [.new "g" 1]).after handover).pulls.map
        (fun p => (p.returned, p.held)) = [(false, [⟨0, 1⟩])] := by
  decide

theorem belated_after_overlap :
    ((Broker.new {} [.new "g" 1]).after overlap).closes[1]? = some .ended ∧
      (Broker.new {} [.new "g" 1]).Belated overlap 1 := by
  have ended : ((Broker.new {} [.new "g" 1]).after overlap).closes[1]? = some .ended := by decide
  refine ⟨ended, (over_unless_belated {} [("g", 1)] overlap 1 ended).resolve_left fun all => ?_⟩
  have running : ∃ p ∈ ((Broker.new {} [.new "g" 1]).after overlap).pulls, pullEnded p = false := by
    decide
  obtain ⟨p, member, running⟩ := running
  exact absurd ((all p member).ended.symm.trans running) (by decide)

end Fanout.Broker
