import Fanout.Limit.LimitPool
import Fanout.Proofs.Limit.Filing
import Fanout.Proofs.Limit.Turns
import Mathlib.Algebra.Order.BigOperators.Group.List
import Mathlib.Algebra.Order.Group.Nat

namespace Fanout

open Fanout.Units

inductive PoolEvent where
  | start (wanted : List Units) (timeout : Option Nat)
  | tryAcquire (limit weight : Nat)
  | run (job : Nat)
  | release (job : Nat)
  | tick (ms : Nat)
deriving DecidableEq

namespace Job

def held : Job → List Units
  | .starting a | .waiting a => a.held
  | .granted held => held
  | _ => []

def filing? : Job → Option (Nat × Nat)
  | .starting a | .waiting a => a.filing?
  | _ => none

def tickets (n : Nat) (job : Job) : List Nat :=
  match job.filing? with
  | some (m, ticket) => if m = n then [ticket] else []
  | none => []

theorem count_tickets (n ticket : Nat) (job : Job) :
    (job.tickets n).count ticket = filings job.filing? n ticket := by
  unfold tickets
  cases job.filing? with
  | none => rfl
  | some claim =>
    obtain ⟨m, mine⟩ := claim
    by_cases same : m = n
    · simp [same, filings_some, List.count_singleton]
    · simp [same, filings_some]

/-- How a job stands that was begun for the units `asked`. -/
inductive For (caps : List (String × Nat)) (asked : List Units) : Job → Prop
  | starting {a : Acquisition} (wanted : a.wanted = asked) (held : a.held = [])
      (ticket : a.ticket = none) : For caps asked (.starting a)
  | waiting {a : Acquisition} (parts : a.held ++ a.wanted = asked) (light : a.Light caps)
      (ticket : a.ticket ≠ none) : For caps asked (.waiting a)
  | granted : For caps asked (.granted asked)
  | refused {e : LimitError} (excuse : e.Excuses caps asked) : For caps asked (.refused e)
  | gone : For caps asked .gone

def Runs (job : Job) (a : Acquisition) : Prop := job = .starting a ∨ job = .waiting a

section

variable {caps : List (String × Nat)} {asked : List Units} {job : Job} {a : Acquisition}

theorem Runs.held (runs : job.Runs a) : job.held = a.held := by
  rcases runs with rfl | rfl <;> rfl

theorem Runs.filing? (runs : job.Runs a) : job.filing? = a.filing? := by
  rcases runs with rfl | rfl <;> rfl

theorem For.parts (matched : job.For caps asked) (runs : job.Runs a) :
    a.held ++ a.wanted = asked ∧ a.Light caps := by
  cases matched with
  | starting wanted held ticket =>
    rcases runs with same | same
    · cases same
      rw [held, List.nil_append]
      exact ⟨wanted, by simp [held], fun waits => absurd ticket waits⟩
    · cases same
  | waiting parts light ticket =>
    rcases runs with same | same
    · cases same
    · cases same
      exact ⟨parts, light⟩
  | granted | refused | gone => rcases runs with same | same <;> cases same

end

/-- The limits once the job has given back what it holds, and the claim with which it waits. -/
def giveBack (limits : Limits) : Job → Limits
  | .starting a | .waiting a => a.abandon limits
  | .granted held => Limits.releaseAll limits held
  | .refused _ | .gone => limits

theorem giveBack_exchange (limits : Limits) (job : Job) :
    Limits.Exchange limits (job.giveBack limits) job.held [] := by
  cases job with
  | starting a | waiting a => exact a.abandon_exchange limits
  | granted held => exact Limits.releaseAll_exchange limits held
  | refused e | gone => exact .refl limits []

theorem giveBack_refiled {limits : Limits} (job : Job) (sane : Limits.Sane limits)
    (registered : ∀ n ticket, job.filing? = some (n, ticket) → Limits.Claimed limits n ticket) :
    Limits.Refiled limits (job.giveBack limits) job.filing? none := by
  cases job with
  | starting a | waiting a => exact a.abandon_refiled sane registered
  | granted held => exact .of_tickets (Limits.ticketsAt_releaseAll limits held) none
  | refused e | gone => exact .refl limits none

theorem acquiredAt_giveBack (limits : Limits) (job : Job) (n : Nat) :
    (job.giveBack limits).acquiredAt n = limits.acquiredAt n := by
  cases job with
  | starting a | waiting a => exact a.acquiredAt_abandon limits n
  | granted held => exact Limits.acquiredAt_releaseAll limits held n
  | refused e | gone => rfl

def ended : Job → Bool
  | .refused _ | .gone => true
  | _ => false

end Job

namespace Acquisition.Progress

def job : Progress → Job
  | .waiting rest => .waiting rest
  | .granted held => .granted held
  | .refused error => .refused error

@[simp] theorem held_job (progress : Progress) : progress.job.held = progress.held := by
  cases progress <;> rfl

@[simp] theorem filing?_job (progress : Progress) : progress.job.filing? = progress.filing? := by
  cases progress <;> rfl

theorem job_for {limits : Limits} {caps : List (String × Nat)} {asked : List Units}
    {progress : Progress} (matched : progress.Fits limits asked)
    (answers : progress.Answers caps asked) : progress.job.For caps asked := by
  cases progress with
  | waiting rest => exact .waiting matched.1 answers.1 answers.2
  | granted held =>
    have all : held = asked := matched
    exact all ▸ .granted
  | refused error => exact .refused answers

end Acquisition.Progress

namespace LimitPool

variable {d : LimitPool} {caps : List (String × Nat)} {sought : List (List Units)} {i n : Nat}
  {job job' : Job} {limits : Limits}

def new (caps : List (String × Nat)) : LimitPool := { limits := caps.map fun c => .new c.1 c.2 }

def step (d : LimitPool) : PoolEvent → LimitPool
  | .start wanted timeout => (d.start wanted timeout).1
  | .tryAcquire limit weight =>
    match d.tryAcquire limit weight with
    | .ok (d, _) => d
    | .error _ => d
  | .run job => d.run job
  | .release job => d.release job
  | .tick ms => { d with now := d.now + ms }

def after (d : LimitPool) (events : List PoolEvent) : LimitPool := events.foldl step d

@[simp] theorem after_nil (d : LimitPool) : d.after [] = d := rfl

@[simp] theorem after_cons (d : LimitPool) (e : PoolEvent) (events : List PoolEvent) :
    d.after (e :: events) = (d.step e).after events := rfl

def asks (d : LimitPool) : PoolEvent → List (List Units)
  | .start wanted _ => [wanted]
  | .tryAcquire limit weight =>
    match d.tryAcquire limit weight with
    | .ok _ => [[⟨limit, weight⟩]]
    | .error _ => []
  | .run _ | .release _ | .tick _ => []

def asked (d : LimitPool) : List PoolEvent → List (List Units)
  | [] => []
  | e :: rest => d.asks e ++ (d.step e).asked rest

def held (d : LimitPool) : List Units := d.jobs.flatMap Job.held

/-- The units of the limit at `n` that wait, under the tickets of jobs, to be collected. -/
def reserved (d : LimitPool) (n : Nat) : Nat :=
  match d.limits[n]? with
  | some l =>
    ((d.jobs.flatMap (Job.tickets n)).map fun ticket =>
      (l.claim? ticket).elim 0 Claim.reserved).sum
  | none => 0

theorem poll_eq (d : LimitPool) (i : Nat) (a : Acquisition) : d.poll i a =
    { d with limits := (a.poll d.limits d.now).1 }.setJob i (a.poll d.limits d.now).2.job := by
  unfold poll
  split <;> rename_i polled <;> rw [polled] <;> rfl

theorem run_heavy {a : Acquisition} {l : Limit} {weight : Nat} {rest : List Units}
    (there : d.jobs[i]? = some (.starting a)) (wanted : a.wanted = ⟨n, weight⟩ :: rest)
    (held : a.held = []) (ticket : a.ticket = none) (here : d.limits[n]? = some l)
    (heavy : l.capacity < weight) :
    d.run i = d.setJob i (.refused (.weightTooLarge weight l.capacity)) := by
  have polled : a.poll d.limits d.now =
      (d.limits, .refused (.weightTooLarge weight l.capacity)) := by
    simp [Acquisition.poll, Acquisition.advance, Limit.request, Limits.releaseAll, wanted, held,
      ticket, here, heavy]
  simp only [run, there]
  rw [poll_eq, polled]
  rfl

theorem weightAt_le_held (there : d.jobs[i]? = some job) :
    weightAt n job.held ≤ weightAt n d.held := by
  have part : weightAt n job.held ∈ d.jobs.map fun job => weightAt n job.held :=
    List.mem_map_of_mem (List.mem_of_getElem? there)
  have sum : weightAt n d.held = (d.jobs.map fun job => weightAt n job.held).sum :=
    tally_flatMap _ n Job.held d.jobs
  rw [sum]
  exact List.le_sum_of_mem part

theorem tryAcquire_ok {d' : LimitPool} {limit weight id : Nat}
    (taken : d.tryAcquire limit weight = .ok (d', id)) :
    ∃ l, d.limits[limit]? = some l ∧ weight ≤ l.available ∧ d' =
      { d with
        limits := d.limits.set limit (l.grant weight)
        jobs := d.jobs ++ [.granted [⟨limit, weight⟩]] } := by
  unfold tryAcquire at taken
  split at taken
  · cases taken
  · rename_i l here
    unfold Limit.tryAcquire at taken
    by_cases heavy : l.capacity < weight
    · simp [heavy] at taken
    · by_cases fits : weight ≤ l.available
      · simp only [heavy, fits, if_true, if_false, Except.ok.injEq, Prod.mk.injEq] at taken
        exact ⟨l, here, fits, taken.1.symm⟩
      · simp [heavy, fits] at taken

/-- The books of a pool of limits from which `asked` has been asked for. -/
structure Kept (d : LimitPool) (caps : List (String × Nat)) (asked : List (List Units)) : Prop where
  sizes : d.limits.map (fun l => (l.name, l.capacity)) = caps
  balanced : Limits.Balanced d.limits d.held
  filed : ∀ n ticket, ((d.jobs.flatMap (Job.tickets n)).count ticket) =
    (d.limits.ticketsAt n).count ticket
  waiting : ∀ (i : Nat) a, d.jobs[i]? = some (.waiting a) → a.Filed d.limits
  length : asked.length = d.jobs.length
  standing : ∀ (i : Nat) wanted job, asked[i]? = some wanted → d.jobs[i]? = some job →
    job.For caps wanted

namespace Kept

theorem fresh (caps : List (String × Nat)) : (new caps).Kept caps [] where
  sizes := List.map_map.trans (List.map_id caps)
  balanced := .fresh caps
  filed n ticket := by
    have none : ticket ∉ (new caps).limits.ticketsAt n := fun member =>
      Limits.not_claimed_fresh caps (Limits.mem_ticketsAt.mp member)
    exact (List.count_eq_zero.mpr none).symm
  waiting _ _ here := nomatch here
  length := rfl
  standing _ _ _ here := nomatch here

theorem asked_of_job (h : d.Kept caps sought) (here : d.jobs[i]? = some job) :
    ∃ wanted, sought[i]? = some wanted ∧ job.For caps wanted := by
  have small := (List.getElem?_eq_some_iff.mp here).1
  rw [← h.length] at small
  have known : sought[i]? = some sought[i] := List.getElem?_eq_getElem small
  exact ⟨_, known, h.standing i _ job known here⟩

theorem registered (h : d.Kept caps sought) (here : d.jobs[i]? = some job) (n ticket : Nat)
    (files : job.filing? = some (n, ticket)) : Limits.Claimed d.limits n ticket := by
  have mine : ticket ∈ job.tickets n := by
    apply List.count_pos_iff.mp
    rw [Job.count_tickets, files]
    simp [filings]
  have present : ticket ∈ d.jobs.flatMap (Job.tickets n) :=
    List.mem_flatMap.mpr ⟨job, List.mem_of_getElem? here, mine⟩
  rw [← List.count_pos_iff, h.filed, List.count_pos_iff] at present
  exact Limits.mem_ticketsAt.mp present

theorem replace (h : d.Kept caps sought) (here : d.jobs[i]? = some job)
    (traded : Limits.Exchange d.limits limits job.held job'.held)
    (refiled : Limits.Refiled d.limits limits job.filing? job'.filing?)
    (waits : ∀ a, job' = .waiting a → a.Filed limits)
    (matched : ∀ wanted, job.For caps wanted → job'.For caps wanted) :
    ({ d with limits := limits }.setJob i job').Kept caps sought where
  sizes := (traded.sizes h.balanced.sane).trans h.sizes
  balanced := by
    refine h.balanced.exchange traded fun f n => ?_
    have swapped := sum_map_modify (f := fun _ => job') here fun job => tally f n job.held
    simp only [held, setJob, tally_flatMap]
    omega
  filed n ticket := by
    have count := h.filed n ticket
    have moved := refiled n ticket
    have swapped := sum_map_modify (f := fun _ => job') here fun job =>
      filings job.filing? n ticket
    simp only [List.count_flatMap, Function.comp_def, Job.count_tickets, setJob] at count ⊢
    omega
  waiting j a new := by
    rcases getElem?_modify_cases new with ⟨-, -, -, same⟩ | ⟨-, old⟩
    · exact waits a same.symm
    · exact (h.waiting j a old).kept h.balanced.sane traded
  length := h.length.trans (List.length_modify ..).symm
  standing j wanted k known new := by
    rcases getElem?_modify_cases new with ⟨_, rfl, there, rfl⟩ | ⟨-, old⟩
    · cases here.symm.trans there
      exact matched wanted (h.standing _ wanted _ known here)
    · exact h.standing j wanted k known old

theorem add (h : d.Kept caps sought) {wanted : List Units}
    (traded : Limits.Exchange d.limits limits [] job.held)
    (refiled : Limits.Refiled d.limits limits none job.filing?)
    (waits : ∀ a, job ≠ .waiting a) (matched : job.For caps wanted) :
    ({ d with limits := limits, jobs := d.jobs ++ [job] } : LimitPool).Kept caps
      (sought ++ [wanted]) where
  sizes := (traded.sizes h.balanced.sane).trans h.sizes
  balanced := by
    refine h.balanced.exchange traded fun f n => ?_
    simp [held, tally_flatMap]
  filed n ticket := by
    have count := h.filed n ticket
    have moved := refiled n ticket
    simp only [List.flatMap_append, List.count_append, List.flatMap_singleton, Job.count_tickets,
      filings_none] at count moved ⊢
    omega
  waiting j a new := by
    rcases getElem?_append_cases new with old | ⟨-, same⟩
    · exact (h.waiting j a old).kept h.balanced.sane traded
    · exact absurd same.symm (waits a)
  length := by simp [h.length]
  standing j asked' k known new := by
    rcases getElem?_append_cases known with old | ⟨rfl, rfl⟩
    · have small := (List.getElem?_eq_some_iff.mp old).1
      rw [h.length] at small
      rw [List.getElem?_append_left small] at new
      exact h.standing j asked' k old new
    · rw [h.length, List.getElem?_concat_length, Option.some.injEq] at new
      exact new ▸ matched

theorem filed_of_runs (h : d.Kept caps sought) {a : Acquisition} (here : d.jobs[i]? = some job)
    (runs : job.Runs a) : a.Filed d.limits := by
  rcases runs with rfl | rfl
  · obtain ⟨wanted, -, matched⟩ := h.asked_of_job here
    cases matched with
    | starting wanted held ticket =>
      intro mine u rest waits
      rw [ticket] at waits
      cases waits
  · exact h.waiting i a here

theorem poll (h : d.Kept caps sought) {a : Acquisition} (here : d.jobs[i]? = some job)
    (runs : job.Runs a) : (d.poll i a).Kept caps sought := by
  have sane := h.balanced.sane
  have filed := h.filed_of_runs here runs
  have spec := Acquisition.poll_spec d.now sane filed
  rw [poll_eq]
  apply h.replace here
  · rw [runs.held, Acquisition.Progress.held_job]
    exact spec.1
  · rw [runs.filing?, Acquisition.Progress.filing?_job]
    apply Acquisition.poll_refiled d.now sane filed
    intro n ticket files
    exact h.registered here n ticket (runs.filing?.trans files)
  · intro rest waits
    cases progress : (a.poll d.limits d.now).2 with
    | waiting rest' =>
      rw [progress] at spec waits
      cases waits
      exact spec.2.2
    | granted held | refused error =>
      rw [progress] at waits
      cases waits
  · intro wanted matched
    obtain ⟨parts, light⟩ := matched.parts runs
    have answers := Acquisition.poll_answers d.now sane filed h.sizes light
    rw [parts] at answers
    exact Acquisition.Progress.job_for (parts ▸ spec.2) answers

theorem run (h : d.Kept caps sought) (i : Nat) : (d.run i).Kept caps sought := by
  unfold LimitPool.run
  split
  · rename_i a here
    exact h.poll here (.inl rfl)
  · rename_i a here
    exact h.poll here (.inr rfl)
  · exact h

theorem release_eq (h : d.Kept caps sought) (here : d.jobs[i]? = some job) :
    d.release i = { d with limits := job.giveBack d.limits }.setJob i .gone := by
  cases job with
  | starting a =>
    -- an acquisition that has not had a turn has nothing to give back
    obtain ⟨wanted, -, matched⟩ := h.asked_of_job here
    cases matched with
    | starting wanted held ticket =>
      simp [LimitPool.release, here, Job.giveBack, Acquisition.abandon, Limits.releaseAll, held, ticket]
  | waiting a | granted held | refused e | gone => simp [LimitPool.release, here, Job.giveBack]

theorem release (h : d.Kept caps sought) (i : Nat) : (d.release i).Kept caps sought := by
  cases here : d.jobs[i]? with
  | none =>
    have same : d.release i = d := by simp [LimitPool.release, here]
    rw [same]
    exact h
  | some job =>
    rw [h.release_eq here]
    apply h.replace here
    · exact job.giveBack_exchange d.limits
    · exact job.giveBack_refiled h.balanced.sane (h.registered here)
    · exact fun _ waits => nomatch waits
    · exact fun _ _ => .gone

theorem step (h : d.Kept caps sought) (e : PoolEvent) :
    (d.step e).Kept caps (sought ++ d.asks e) := by
  cases e with
  | start wanted timeout =>
    exact h.add (.refl d.limits []) (.refl d.limits none) (fun _ waits => nomatch waits)
      (.starting rfl rfl rfl)
  | tryAcquire limit weight =>
    cases taken : d.tryAcquire limit weight with
    | ok answer =>
      obtain ⟨d', id⟩ := answer
      obtain ⟨l, here, fits, rfl⟩ := tryAcquire_ok taken
      simp only [LimitPool.step, asks, taken]
      apply h.add
      · exact .grant (u := ⟨limit, weight⟩) here fits []
      · exact .set here (fun _ => rfl) fun _ _ _ => rfl
      · exact fun _ waits => nomatch waits
      · exact .granted
    | error e =>
      simp only [LimitPool.step, asks, taken, List.append_nil]
      exact h
  | run job =>
    rw [asks, List.append_nil]
    exact h.run job
  | release job =>
    rw [asks, List.append_nil]
    exact h.release job
  | tick ms =>
    rw [asks, List.append_nil]
    exact ⟨h.sizes, h.balanced, h.filed, h.waiting, h.length, h.standing⟩

theorem after (h : d.Kept caps sought) (events : List PoolEvent) :
    (d.after events).Kept caps (sought ++ d.asked events) := by
  induction events generalizing d sought with
  | nil =>
    rw [asked, List.append_nil]
    exact h
  | cons e rest ih =>
    have later := ih (h.step e)
    rwa [List.append_assoc] at later

end Kept

end LimitPool

end Fanout
