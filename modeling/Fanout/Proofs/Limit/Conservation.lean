import Fanout.Proofs.Limit.Jobs

namespace Fanout

open Fanout.Units

namespace LimitPool

variable {d : LimitPool} {caps : List (String × Nat)} {sought : List (List Units)} {i n : Nat}
  {job : Job}

def without (d : LimitPool) (i : Nat) : LimitPool := { d with jobs := d.jobs.eraseIdx i }

/-- Each unit and each permit is accounted for by the jobs, and so is each claim. -/
structure Balances (d : LimitPool) : Prop where
  units : ∀ (n : Nat) l, d.limits[n]? = some l →
    l.available + weightAt n d.held + d.reserved n = l.capacity
  permits : ∀ (n : Nat) l, d.limits[n]? = some l → l.acquired = l.released + countAt n d.held
  claims : ∀ (n : Nat) l, d.limits[n]? = some l →
    (d.jobs.flatMap (Job.tickets n)).Perm l.tickets

/-- What it brings about that the job at `i`, which was `job` until then, is given back or given up:
it is gone and holds nothing, and its units are to spare or with those who wait. -/
structure Releases (d : LimitPool) (i : Nat) (job : Job) : Prop where
  limits : (d.release i).limits = job.giveBack d.limits
  gone : (d.release i).jobs = d.jobs.set i .gone
  nothing : ((d.release i).without i).Balances
  back : ∀ (n : Nat) l, d.limits[n]? = some l → ∃ l', (d.release i).limits[n]? = some l' ∧
    l'.available + (d.release i).reserved n = l.available + d.reserved n + weightAt n job.held ∧
    l'.released = l.released + countAt n job.held ∧ l'.acquired = l.acquired
  withdrawn : ∀ n ticket, job.filing? = some (n, ticket) →
    ¬ Limits.Claimed (d.release i).limits n ticket

/-- Where the acquisition `a` of the job at `i` has come to after a turn: it is over, or units are
missing for which it waits. It is refused for want of units only when its time is over, or if it asks
for units of a limit that does not exist. -/
inductive Settles (d : LimitPool) (wanted : List Units) (a : Acquisition) : Job → Prop
  | granted : Settles d wanted a (.granted wanted)
  | refused {e : LimitError} (late : e = .exhausted → a.expired d.now = true ∨
      ∃ u ∈ wanted, d.limits[u.limit]? = none) : Settles d wanted a (.refused e)
  | waiting {rest : Acquisition} (still : rest.ready d.limits d.now = false)
      (deadline : rest.deadline = a.deadline) : Settles d wanted a (.waiting rest)

/-- What can be relied on whatever has been asked for, given up and given back. -/
structure Conserves (d : LimitPool) (caps : List (String × Nat)) (sought : List (List Units)) :
    Prop where
  sizes : d.limits.map (fun l => (l.name, l.capacity)) = caps
  balances : d.Balances
  /-- Who is granted anything is granted all. -/
  whole : ∀ (i : Nat) wanted held, sought[i]? = some wanted → d.jobs[i]? = some (.granted held) →
    held = wanted
  singles : ∀ (i : Nat) (limits : List Nat) held, sought[i]? = some (limits.map fun n => ⟨n, 1⟩) →
    d.jobs[i]? = some (.granted held) →
      ∀ n, weightAt n held = limits.count n ∧ countAt n held = limits.count n
  /-- The books balance without those who have been refused or are gone. -/
  nothing : ∀ (i : Nat) job, d.jobs[i]? = some job → job.ended = true → (d.without i).Balances
  excused : ∀ (i : Nat) wanted e, sought[i]? = some wanted → d.jobs[i]? = some (.refused e) →
    e.Excuses caps wanted
  tooHeavy : ∀ (n : Nat) l weight, d.limits[n]? = some l → l.capacity < weight →
    d.tryAcquire n weight = .error (.weightTooLarge weight l.capacity)
  /-- Who asks first for more than there can be is refused on the first turn, or given up before. -/
  turnedAway : ∀ (i n : Nat) l weight rest, sought[i]? = some (⟨n, weight⟩ :: rest) →
    d.limits[n]? = some l → l.capacity < weight →
      (∃ a, d.jobs[i]? = some (.starting a) ∧
          d.run i = d.setJob i (.refused (.weightTooLarge weight l.capacity))) ∨
        d.jobs[i]? = some (.refused (.weightTooLarge weight l.capacity)) ∨
        d.jobs[i]? = some .gone
  length : sought.length = d.jobs.length
  begun : ∀ wanted timeout, ∃ a, (d.start wanted timeout).1.jobs = d.jobs ++ [.starting a] ∧
    a.wanted = wanted ∧ a.deadline = timeout.map (d.now + ·)
  turned : ∀ (i : Nat) wanted job a, sought[i]? = some wanted → d.jobs[i]? = some job →
    job.Runs a → ∃ next, (d.run i).jobs = d.jobs.set i next ∧ (d.run i).now = d.now ∧
      Settles (d.run i) wanted a next
  taken : ∀ (n : Nat) l weight, d.limits[n]? = some l → weight ≤ l.available →
    ∃ d', d.tryAcquire n weight = .ok (d', d.jobs.length) ∧
      d'.jobs = d.jobs ++ [.granted [⟨n, weight⟩]]
  scarce : ∀ (n : Nat) l weight, d.limits[n]? = some l → l.available < weight →
    weight ≤ l.capacity → d.tryAcquire n weight = .error .exhausted
  released : ∀ (i : Nat) job, d.jobs[i]? = some job → d.Releases i job

namespace Kept

theorem claims (h : d.Kept caps sought) {l : Limit} (here : d.limits[n]? = some l) :
    (d.jobs.flatMap (Job.tickets n)).Perm l.tickets := by
  apply List.perm_iff_count.mpr
  intro ticket
  rw [h.filed, Limits.ticketsAt_eq here]

theorem reserved_eq (h : d.Kept caps sought) {l : Limit} (here : d.limits[n]? = some l) :
    d.reserved n = (l.claims.map Claim.reserved).sum := by
  have sane := h.balanced.sane l (List.mem_of_getElem? here)
  have each : l.tickets.map (fun ticket => (l.claim? ticket).elim 0 Claim.reserved) =
      l.claims.map Claim.reserved := by
    rw [Limit.tickets, List.map_map]
    apply List.map_congr_left
    intro c member
    have found : l.claim? c.ticket = some c := sane.claim?_eq_some_iff.mpr ⟨member, rfl⟩
    simp [found]
  simp only [reserved, here]
  rw [((h.claims here).map _).sum_eq, each]

theorem balances (h : d.Kept caps sought) : d.Balances where
  units n l here := by
    have spare := h.balanced.spare n l here
    rw [Limit.spare, ← h.reserved_eq here] at spare
    omega
  permits := h.balanced.counted
  claims _ _ here := h.claims here

theorem without (h : d.Kept caps sought) (here : d.jobs[i]? = some job)
    (ended : job.ended = true) : (d.without i).Balances := by
  have empty : job.held = [] ∧ ∀ n, job.tickets n = [] := by
    cases job with
    | refused | gone => exact ⟨rfl, fun _ => rfl⟩
    | starting | waiting | granted => cases ended
  have held : (d.without i).held = d.held := flatMap_eraseIdx empty.1 here
  have tickets (n : Nat) :
      (d.without i).jobs.flatMap (Job.tickets n) = d.jobs.flatMap (Job.tickets n) :=
    flatMap_eraseIdx (empty.2 n) here
  have reserved (n : Nat) : (d.without i).reserved n = d.reserved n := by
    unfold LimitPool.reserved
    rw [tickets]
    rfl
  constructor
  · intro n l there
    rw [held, reserved]
    exact h.balances.units n l there
  · intro n l there
    rw [held]
    exact h.balances.permits n l there
  · intro n l there
    rw [tickets]
    exact h.balances.claims n l there

theorem size (h : d.Kept caps sought) {l : Limit} (here : d.limits[n]? = some l) :
    caps[n]? = some (l.name, l.capacity) := by
  rw [← h.sizes, List.getElem?_map, here]
  rfl

theorem turnedAway (h : d.Kept caps sought) {l : Limit} {weight : Nat} {rest : List Units}
    (known : sought[i]? = some (⟨n, weight⟩ :: rest)) (here : d.limits[n]? = some l)
    (heavy : l.capacity < weight) :
    (∃ a, d.jobs[i]? = some (.starting a) ∧
        d.run i = d.setJob i (.refused (.weightTooLarge weight l.capacity))) ∨
      d.jobs[i]? = some (.refused (.weightTooLarge weight l.capacity)) ∨
      d.jobs[i]? = some .gone := by
  -- so nothing was granted to the job, and it waits for nothing
  have unfit : ¬ Units.Light caps ⟨n, weight⟩ := by
    intro light
    have fits : weight ≤ l.capacity := light _ (h.size here)
    omega
  have small := (List.getElem?_eq_some_iff.mp known).1
  rw [h.length] at small
  have there : d.jobs[i]? = some d.jobs[i] := List.getElem?_eq_getElem small
  have matched := h.standing i _ _ known there
  generalize d.jobs[i] = job at there matched
  cases matched with
  | @starting a wanted held ticket =>
    left
    exact ⟨a, there, run_heavy there wanted held ticket here heavy⟩
  | waiting parts light ticket =>
    have first := light.head ticket ⟨n, weight⟩ (by simp [parts])
    exact absurd first unfit
  | granted =>
    have units := h.balances.units n l here
    have part := weightAt_le_held (n := n) there
    have mine : weight ≤ weightAt n (Job.granted (⟨n, weight⟩ :: rest)).held := by
      simp [Job.held, weightAt]
    omega
  | refused excuse =>
    right
    left
    cases excuse with
    | late light => exact absurd (light ⟨n, weight⟩ rfl) unfit
    | @heavy before after u name capacity split light size _ =>
      cases before with
      | nil =>
        cases split
        rw [h.size here] at size
        cases size
        exact there
      | cons v others =>
        cases split
        exact absurd (light _ (List.mem_cons_self ..)) unfit
  | gone => exact .inr (.inr there)

theorem limit_release (h : d.Kept caps sought) {l : Limit} (here : d.limits[n]? = some l) :
    ∃ l', (d.release i).limits[n]? = some l' ∧ l'.capacity = l.capacity := by
  have sizes := (h.release i).sizes.trans h.sizes.symm
  have small : n < (d.release i).limits.length := by
    have lengths := congrArg List.length sizes
    rw [List.length_map, List.length_map] at lengths
    rw [lengths]
    exact (List.getElem?_eq_some_iff.mp here).1
  have there : (d.release i).limits[n]? = some (d.release i).limits[n] :=
    List.getElem?_eq_getElem small
  refine ⟨_, there, ?_⟩
  have size := (h.release i).size there
  rw [h.size here, Option.some.injEq, Prod.mk.injEq] at size
  exact size.2.symm

theorem releases (h : d.Kept caps sought) (here : d.jobs[i]? = some job) : d.Releases i job := by
  have same := h.release_eq here
  have gone : (d.release i).jobs = d.jobs.set i .gone := by
    rw [same, List.set_eq_modify]
    rfl
  have small := (List.getElem?_eq_some_iff.mp here).1
  have there : (d.release i).jobs[i]? = some .gone := by
    rw [gone]
    exact List.getElem?_set_self small
  have held (f : Units → Nat) (n : Nat) :
      tally f n (d.release i).held + tally f n job.held = tally f n d.held := by
    have swapped := sum_map_modify (f := fun _ => Job.gone) here fun job => tally f n job.held
    rw [LimitPool.held, LimitPool.held, gone, List.set_eq_modify, tally_flatMap, tally_flatMap]
    exact swapped
  refine ⟨by rw [same]; rfl, gone, (h.release i).without there rfl, fun n l old => ?_,
    fun n ticket files => ?_⟩
  · obtain ⟨l', new, capacity⟩ := h.limit_release (i := i) old
    have grants : l'.acquired = l.acquired := by
      rw [← Limits.acquiredAt_eq new, ← Limits.acquiredAt_eq old, same]
      exact job.acquiredAt_giveBack d.limits n
    have units := h.balances.units n l old
    have units' := (h.release i).balances.units n l' new
    have permits := h.balances.permits n l old
    have permits' := (h.release i).balances.permits n l' new
    have weights := held (·.weight) n
    have counts := held (fun _ => 1) n
    refine ⟨l', new, ?_, ?_, grants⟩
    · unfold weightAt at *
      omega
    · unfold countAt at *
      omega
  · -- no two claims have one ticket, and one under this ticket has gone
    intro claimed
    have refiled := job.giveBack_refiled h.balanced.sane (h.registered here) n ticket
    have limits : (d.release i).limits = job.giveBack d.limits := by
      rw [same]
      rfl
    have present := List.count_pos_iff.mpr (Limits.mem_ticketsAt.mpr claimed)
    obtain ⟨l, old, -⟩ := h.registered here n ticket files
    have single : (d.limits.ticketsAt n).Nodup := by
      rw [Limits.ticketsAt_eq old]
      exact (h.balanced.sane l (List.mem_of_getElem? old)).nodup
    have few := List.nodup_iff_count_le_one.mp single ticket
    rw [limits] at present
    simp only [files, filings, if_true, reduceCtorEq, if_false] at refiled
    omega

theorem turned (h : d.Kept caps sought) {wanted : List Units} {a : Acquisition}
    (known : sought[i]? = some wanted) (here : d.jobs[i]? = some job) (runs : job.Runs a) :
    ∃ next, (d.run i).jobs = d.jobs.set i next ∧ (d.run i).now = d.now ∧
      Settles (d.run i) wanted a next := by
  have parts := ((h.standing i wanted job known here).parts runs).1
  have filed := h.filed_of_runs here runs
  have final := Acquisition.poll_final d.now h.balanced.sane filed
  have fits := (Acquisition.poll_spec d.now h.balanced.sane filed).2
  have same : d.run i =
      { d with limits := (a.poll d.limits d.now).1 }.setJob i (a.poll d.limits d.now).2.job := by
    rw [← poll_eq]
    rcases runs with rfl | rfl
    · simp only [LimitPool.run, here]
    · simp only [LimitPool.run, here]
  rw [same]
  refine ⟨(a.poll d.limits d.now).2.job, ?_, rfl, ?_⟩
  · rw [List.set_eq_modify]
    rfl
  · rw [parts] at fits
    generalize a.poll d.limits d.now = polled at final fits
    obtain ⟨limits, progress⟩ := polled
    cases progress with
    | waiting rest => exact .waiting final.1 final.2
    | granted held =>
      have all : held = wanted := fits
      rw [all]
      exact .granted
    | refused e =>
      refine .refused fun exhausted => (final exhausted).imp_right ?_
      rintro ⟨u, member, absent⟩
      exact ⟨u, parts ▸ List.mem_append_right _ member, absent⟩

theorem available_le (h : d.Kept caps sought) {l : Limit} (here : d.limits[n]? = some l) :
    l.available ≤ l.capacity := by
  have units := h.balances.units n l here
  omega

theorem conserves (h : d.Kept caps sought) : d.Conserves caps sought where
  sizes := h.sizes
  balances := h.balances
  whole i wanted held known here := by
    cases h.standing i wanted _ known here
    rfl
  singles i limits held known here n := by
    cases h.standing i _ _ known here
    exact ⟨tally_singles (fun _ => rfl) n limits, tally_singles (fun _ => rfl) n limits⟩
  nothing i job here ended := h.without here ended
  excused i wanted e known here := by
    cases h.standing i wanted _ known here
    assumption
  tooHeavy n l weight here heavy := by
    simp [tryAcquire, here, Limit.tryAcquire, heavy]
  turnedAway i n l weight rest known here heavy := h.turnedAway known here heavy
  length := h.length
  begun wanted timeout := ⟨_, rfl, rfl, rfl⟩
  turned i wanted job a known here runs := h.turned known here runs
  taken n l weight here fits := by
    have light : ¬ l.capacity < weight := by
      have bound := h.available_le here
      omega
    simp [tryAcquire, here, Limit.tryAcquire, light, fits]
  scarce n l weight here scarce light := by
    have none : ¬ weight ≤ l.available := by omega
    simp [tryAcquire, here, Limit.tryAcquire, Nat.not_lt.mpr light, none]
  released i job here := h.releases here

end Kept

theorem conserves_after (caps : List (String × Nat)) (events : List PoolEvent) :
    ((new caps).after events).Conserves caps ((new caps).asked events) :=
  ((Kept.fresh caps).after events).conserves

/-- An acquisition that is given up while it waits for its second unit gives back the first one. -/
theorem conserves_given_up :
    let d := (new [("global", 1), ("source", 1)]).after
      [.tryAcquire 1 1, .start [⟨0, 1⟩, ⟨1, 1⟩] (some 3000), .run 1]
    (d.jobs.map Job.held = [[⟨1, 1⟩], [⟨0, 1⟩]] ∧ d.isPending 1 = true ∧
      d.limits.map (fun l => (l.available, l.released)) = [(0, 0), (0, 0)]) ∧
    (d.release 1).jobs = d.jobs.set 1 .gone ∧ ((d.release 1).without 1).Balances ∧
      ∃ l, (d.release 1).limits[0]? = some l ∧ l.available = 1 ∧ l.released = 1 := by
  intro d
  have conserves := conserves_after [("global", 1), ("source", 1)]
    [.tryAcquire 1 1, .start [⟨0, 1⟩, ⟨1, 1⟩] (some 3000), .run 1]
  obtain ⟨-, gone, nothing, back, -⟩ := conserves.released 1 _ rfl
  obtain ⟨l, there, units, released, -⟩ := back 0 _ rfl
  have reserved : (d.release 1).reserved 0 = 0 := by decide
  refine ⟨by decide, gone, nothing, l, there, ?_, released⟩
  rw [reserved] at units
  exact units

end LimitPool

end Fanout
