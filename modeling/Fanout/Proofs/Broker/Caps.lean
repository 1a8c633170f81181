import Fanout.Proofs.Broker.Ending
import Fanout.Proofs.Broker.Funded
import Fanout.Proofs.Broker.SingleFlight

namespace Fanout

open Fanout.Units

/-- The pull was started by the request, and holds its units until its feed has ended. -/
def Request.Backs (r : Request) (p : Pull) : Prop :=
  p.key = r.key ∧ p.held = if p.returned then [] else r.units

namespace Broker

variable {b b' m m' : Broker} {i j k : Nat} {p : Pull} {r : Request} {place : SinkPlace}

theorem Funded.along (funded : b.Funded) (h : b.Sound) (e : Event) {P : Broker → Prop} (start : P b)
    (quiet : ∀ m m', m.Quiet m' → P m → P m')
    (moved : ∀ m m', m.Funded → e.mover m m' → P m → P m') : P (b.step e) := by
  have both := h.along e (P := fun m => m.Funded ∧ P m) ⟨funded, start⟩
    (fun m m' same held => ⟨held.1.move (.quiet same), quiet m m' same held.2⟩)
    (fun m m' _ move held => ⟨held.1.move (move_of_mover move), moved m m' held.1 move held.2⟩)
  exact both.2

def asks? (b : Broker) : Event → Option Request
  | .run (.opening i) => b.openings[i]?.map (·.request)
  | _ => none

/-- The requests that have started the pulls of a step, one for each. -/
def startedBy (b : Broker) (e : Event) : List Request :=
  ((b.step e).pulls.drop b.pulls.length).filterMap fun _ => b.asks? e

def starters (b : Broker) : List Event → List Request
  | [] => []
  | e :: rest => b.startedBy e ++ (b.step e).starters rest

variable {rs : List Request} {e : Event}

theorem asks?_congr (requests : b'.openings.map (·.request) = b.openings.map (·.request)) :
    b'.asks? e = b.asks? e := by
  unfold asks?
  split
  · rw [← List.getElem?_map, ← List.getElem?_map, requests]
  · rfl

theorem OpenMove.requests (move : b.OpenMove i b') :
    b'.openings.map (·.request) = b.openings.map (·.request) := by
  cases move
  all_goals
    refine map_modify_same (fun o => ?_) b.openings i
    rfl

theorem Quiet.backs (same : b.Quiet b') (backed : List.Forall₂ Request.Backs rs b.pulls) :
    List.Forall₂ Request.Backs rs b'.pulls := by
  have outlined (pulls : List Pull) : List.Forall₂ Request.Backs rs pulls ↔
      List.Forall₂ Request.Backs rs (pulls.map Pull.outline) :=
    (List.forall₂_map_right_iff (R := Request.Backs) (f := Pull.outline)).symm
  rw [outlined, same.pulls, ← outlined]
  exact backed

theorem PullMove.backs (move : b.PullMove i b') (backed : List.Forall₂ Request.Backs rs b.pulls) :
    List.Forall₂ Request.Backs rs b'.pulls := by
  cases move with
  | queue here starting =>
    refine forall₂_modify backed here fun r backs => ?_
    rw [Request.Backs, Pull.returned, starting] at backs
    exact backs
  | subscribe here queued held old changed =>
    refine forall₂_modify backed here fun r backs => ?_
    rw [Request.Backs, Pull.returned, queued] at backs
    exact backs
  | endFeed ending canceled here running changed =>
    exact forall₂_modify backed here fun r backs => ⟨backs.1, rfl⟩
  | close sinks here leaving held changed =>
    refine forall₂_modify backed here fun r backs => ?_
    rw [Request.Backs, Pull.returned, leaving] at backs
    exact backs
  | finish outcome here closing =>
    refine forall₂_modify backed here fun r backs => ?_
    rw [Request.Backs, Pull.returned, closing] at backs
    exact backs
  | notice here ready => exact forall₂_modify backed here fun r backs => backs

theorem OpenMove.backs (move : b.OpenMove i b') (h : b.Funded)
    (backed : List.Forall₂ Request.Backs rs b.pulls) :
    ∃ added, List.Forall₂ Request.Backs (rs ++ added) b'.pulls ∧
      ∀ r ∈ added, b.asks? (.run (.opening i)) = some r := by
  cases move with
  | @grant guard r place a limits held here up poll =>
    have units : held = r.units := (h.poll here poll).2
    have backs : r.Backs { key := r.key, relay := place.1, feed := r.feed, held := held } :=
      ⟨rfl, units⟩
    exact ⟨[r], List.rel_append backed (.cons backs .nil), by simp [asks?, here]⟩
  | refuse | queue | turnAway | arrive | join | wait | deny | denyGone | dispose =>
    exact ⟨[], by rwa [List.append_nil], fun _ member => absurd member List.not_mem_nil⟩

theorem backs_of_mover (h : m.Funded) (moved : e.mover m m')
    (backed : List.Forall₂ Request.Backs rs m.pulls) :
    m'.asks? e = m.asks? e ∧ ∃ added, List.Forall₂ Request.Backs (rs ++ added) m'.pulls ∧
      ∀ r ∈ added, m.asks? e = some r := by
  by_cases own : ∃ i, e = .run (.opening i)
  · obtain ⟨i, rfl⟩ := own
    exact ⟨asks?_congr (OpenMove.requests moved), OpenMove.backs moved h backed⟩
  · have silent (b : Broker) : b.asks? e = none := by
      unfold asks?
      split
      · exact absurd ⟨_, rfl⟩ own
      · rfl
    refine ⟨by rw [silent, silent], [], ?_, fun _ member => absurd member List.not_mem_nil⟩
    rw [List.append_nil]
    unfold Event.mover at moved
    split at moved
    · exact absurd ⟨_, rfl⟩ own
    · cases moved <;> exact backed
    · exact moved.backs backed
    · exact moved.backs backed
    · exact moved.backs backed
    · cases moved <;> exact backed
    · cases moved <;> exact backed
    · cases moved <;> exact backed

theorem startedBy_eq {added : List Request}
    (length : (b.step e).pulls.length = b.pulls.length + added.length)
    (asked : ∀ r ∈ added, b.asks? e = some r) : b.startedBy e = added := by
  have new : ((b.step e).pulls.drop b.pulls.length).length = added.length := by
    rw [List.length_drop]
    omega
  unfold startedBy
  cases asks : b.asks? e with
  | none =>
    have empty : added = [] := List.eq_nil_iff_forall_not_mem.mpr fun r member => by
      rw [asks] at asked
      cases asked r member
    simp [empty]
  | some r =>
    have same : added = List.replicate added.length r := by
      refine List.eq_replicate_iff.mpr ⟨rfl, fun s member => ?_⟩
      have asked := asked s member
      rw [asks, Option.some.injEq] at asked
      exact asked.symm
    rw [show (fun _ : Pull => some r) = some ∘ fun _ => r from rfl, List.filterMap_eq_map,
      List.map_const', new, ← same]

theorem Sound.step_backs (h : b.Sound) (funded : b.Funded) (e : Event)
    (backed : List.Forall₂ Request.Backs rs b.pulls) :
    List.Forall₂ Request.Backs (rs ++ b.startedBy e) (b.step e).pulls := by
  obtain ⟨-, added, backed', asked⟩ := funded.along h e
    (P := fun m => m.asks? e = b.asks? e ∧ ∃ added,
      List.Forall₂ Request.Backs (rs ++ added) m.pulls ∧ ∀ r ∈ added, b.asks? e = some r)
    ⟨rfl, [], by rwa [List.append_nil], fun _ member => absurd member List.not_mem_nil⟩
    (fun m m' same ⟨asks, added, backed, asked⟩ =>
      ⟨(asks?_congr (by rw [same.openings])).trans asks, added, same.backs backed, asked⟩)
    (fun m m' funded moved ⟨asks, added, backed, asked⟩ => by
      obtain ⟨asks', more, backed', asked'⟩ := backs_of_mover funded moved backed
      refine ⟨asks'.trans asks, added ++ more, by rwa [← List.append_assoc], fun r member => ?_⟩
      rcases List.mem_append.mp member with old | new
      · exact asked r old
      · exact asks ▸ asked' r new)
  have before := backed.length_eq
  have after := backed'.length_eq
  rw [List.length_append] at after
  rwa [startedBy_eq (by omega) asked]

theorem Sound.backs_after (h : b.Sound) (funded : b.Funded) (events : List Event)
    (backed : List.Forall₂ Request.Backs rs b.pulls) :
    List.Forall₂ Request.Backs (rs ++ b.starters events) (b.after events).pulls := by
  induction events generalizing b rs with
  | nil => rwa [starters, List.append_nil]
  | cons e rest ih =>
    have stepped := ih (h.step e) (funded.moves (step_moves e h.related))
      (h.step_backs funded e backed)
    rwa [List.append_assoc] at stepped

theorem mover_own (own : e.ofPull i = true) : e.mover = (·.PullMove i ·) := by
  cases e with
  | turn j t =>
    obtain rfl : j = i := by simpa [Event.ofPull] using own
    rfl
  | run task =>
    cases task with
    | pull j | watcher j =>
      obtain rfl : j = i := by simpa [Event.ofPull] using own
      rfl
    | _ => cases own
  | _ => cases own

theorem mover_foreign (foreign : e.ofPull i = false) (moved : e.mover m m') :
    m'.pulls[i]? = m.pulls[i]? ∨
      m.pulls[i]? = none ∧ ∃ q, m'.pulls[i]? = some q ∧ q.state = .starting := by
  have other (j : Nat) (differs : (j == i) = false) (move : m.PullMove j m') :
      m'.pulls[i]? = m.pulls[i]? := by
    have differs : j ≠ i := by simpa using differs
    cases move <;> simp [updatePull, setPull, leave, differs]
  unfold Event.mover at moved
  split at moved
  · cases moved with
    | @grant guard r place a limits held here up poll =>
      rcases Nat.lt_trichotomy i m.pulls.length with small | rfl | large
      · exact .inl (List.getElem?_append_left small)
      · refine .inr ⟨List.getElem?_eq_none (Nat.le_refl _), ?_⟩
        exact ⟨_, List.getElem?_concat_length, rfl⟩
      · refine .inl ?_
        rw [List.getElem?_eq_none (Nat.le_of_lt large)]
        exact List.getElem?_eq_none (by simp [startPull, finishOpen, setOpening, leave]; omega)
    | _ => exact .inl rfl
  · cases moved <;> exact .inl rfl
  · exact .inl (other _ foreign moved)
  · exact .inl (other _ foreign moved)
  · exact .inl (other _ foreign moved)
  · cases moved <;> exact .inl rfl
  · cases moved <;> exact .inl rfl
  · cases moved <;> exact .inl rfl

theorem Sound.foreign_step (h : b.Sound) (foreign : e.ofPull i = false) :
    (b.step e).pulls[i]?.map Pull.outline = b.pulls[i]?.map Pull.outline ∨
      b.pulls[i]? = none ∧ ∃ q, (b.step e).pulls[i]? = some q ∧ q.state = .starting := by
  refine h.along e
    (P := fun m => m.pulls[i]?.map Pull.outline = b.pulls[i]?.map Pull.outline ∨
      b.pulls[i]? = none ∧ ∃ q, m.pulls[i]? = some q ∧ q.state = .starting) (.inl rfl) ?_ ?_
  · intro m m' same before
    have outline : m'.pulls[i]?.map Pull.outline = m.pulls[i]?.map Pull.outline := by
      rw [← List.getElem?_map, same.pulls, List.getElem?_map]
    rcases before with kept | ⟨absent, q, there, starting⟩
    · exact .inl (outline.trans kept)
    · obtain ⟨q', there', alike⟩ := pull_of_outlines same.pulls there
      exact .inr ⟨absent, q', there', (congrArg Pull.state alike).trans starting⟩
  · intro m m' _ moved before
    rcases mover_foreign foreign moved with same | ⟨absent, new⟩
    · rwa [same]
    · rcases before with kept | ⟨-, q, there, -⟩
      · rw [absent, Option.map_none, eq_comm, Option.map_eq_none_iff] at kept
        exact .inr ⟨kept, new⟩
      · rw [absent] at there
        cases there

theorem Sound.foreign_pull (h : b.Sound) (foreign : e.ofPull i = false)
    (here : b.pulls[i]? = some p) : ∃ q, (b.step e).pulls[i]? = some q ∧ q.outline = p.outline := by
  rcases h.foreign_step foreign with kept | ⟨absent, -⟩
  · rwa [here, Option.map_some, Option.map_eq_some_iff] at kept
  · rw [here] at absent
    cases absent

/-- What has become of a pull `p` in the course of its own step, and of the limits. -/
def Spent (limits : Limits) (p : Pull) (m : Broker) (q : Pull) : Prop :=
  q.returned = false ∧ q.held = p.held ∧ m.limits = limits ∨
    q.returned = true ∧ q.held = [] ∧ m.limits = Limits.releaseAll limits p.held

theorem PullMove.spent {q : Pull} {limits : Limits} (move : m.PullMove i m')
    (there : m.pulls[i]? = some q) (spent : Spent limits p m q) :
    ∃ q', m'.pulls[i]? = some q' ∧ Spent limits p m' q' := by
  have same {q' : Pull} (new : m'.pulls[i]? = some q') (returned : q'.returned = q.returned)
      (held : q'.held = q.held) (limits' : m'.limits = m.limits) :
      ∃ q', m'.pulls[i]? = some q' ∧ Spent limits p m' q' := by
    refine ⟨q', new, ?_⟩
    rw [Spent, returned, held, limits']
    exact spent
  have self {f : Pull → Pull} (pulls : m'.pulls = m.pulls.modify i f) :
      m'.pulls[i]? = some (f q) := by
    rw [pulls, List.getElem?_modify_eq, there]
    rfl
  cases move with
  | queue here starting =>
    cases there.symm.trans here
    exact same (self rfl) (by rw [Pull.returned, Pull.returned, starting]) rfl rfl
  | subscribe here queued held old changed =>
    cases there.symm.trans here
    exact same (self rfl) (by rw [Pull.returned, Pull.returned, queued]) rfl rfl
  | endFeed ending canceled here running changed =>
    cases there.symm.trans here
    refine ⟨_, self rfl, .inr ⟨rfl, rfl, ?_⟩⟩
    rcases spent with ⟨-, held, limits⟩ | ⟨returned, -⟩
    · rw [← held, ← limits]
      rfl
    · rw [Pull.returned, running] at returned
      cases returned
  | close sinks here leaving held changed =>
    cases there.symm.trans here
    exact same (self rfl) (by rw [Pull.returned, Pull.returned, leaving]) rfl rfl
  | finish outcome here closing =>
    cases there.symm.trans here
    exact same (self rfl) (by rw [Pull.returned, Pull.returned, closing]) rfl rfl
  | notice here ready =>
    cases there.symm.trans here
    exact same (self rfl) rfl rfl rfl

theorem Quiet.pull (same : m.Quiet m') (there : m.pulls[i]? = some p) :
    ∃ q, m'.pulls[i]? = some q ∧ q.returned = p.returned ∧ q.held = p.held := by
  obtain ⟨q, there', outline⟩ := pull_of_outlines same.pulls there
  have returned := congrArg Pull.returned outline
  have held := congrArg Pull.held outline
  exact ⟨q, there', returned, held⟩

theorem Sound.spent (h : b.Sound) (funded : b.Funded) (own : e.ofPull i = true) {limits : Limits}
    {q : Pull} (here : b.pulls[i]? = some q) (spent : Spent limits p b q) :
    ∃ q', (b.step e).pulls[i]? = some q' ∧ Spent limits p (b.step e) q' := by
  refine funded.along h e (P := fun m => ∃ q, m.pulls[i]? = some q ∧ Spent limits p m q)
    ⟨q, here, spent⟩ ?_ ?_
  · rintro m m' same ⟨q, there, spent⟩
    obtain ⟨q', there', returned, held⟩ := same.pull there
    rw [Spent, ← returned, ← held, ← same.limits] at spent
    exact ⟨q', there', spent⟩
  · rintro m m' - moved ⟨q, there, spent⟩
    rw [mover_own own] at moved
    exact PullMove.spent moved there spent

theorem Sound.returns (h : b.Sound) (funded : b.Funded) (e : Event) {q : Pull}
    (here : b.pulls[i]? = some p) (going : p.returned = false)
    (there : (b.step e).pulls[i]? = some q) (ended : q.returned = true) :
    (∃ ending, b.ending? i e = some ending) ∧ q.held = [] ∧
      (b.step e).limits = Limits.releaseAll b.limits p.held := by
  cases own : e.ofPull i with
  | true =>
    have ends := (h.pull_step own here).ending_of_returned here there going ended
    obtain ⟨q', there', spent⟩ := h.spent funded own here (.inl ⟨going, rfl, rfl⟩)
    cases there.symm.trans there'
    rcases spent with ⟨going, -⟩ | ⟨-, spent⟩
    · rw [going] at ended
      cases ended
    · exact ⟨ends, spent⟩
  | false =>
    -- whoever else acts does not end the feed
    obtain ⟨q', there', outline⟩ := h.foreign_pull own here
    cases there.symm.trans there'
    have returned := congrArg Pull.returned outline
    exact absurd (going.symm.trans (returned.symm.trans ended)) Bool.false_ne_true

theorem Sound.gives_back (h : b.Sound) (funded : b.Funded) {ending : Ending}
    (here : b.pulls[i]? = some p) (ends : b.ending? i e = some ending) :
    p.returned = false ∧ ∃ q, (b.step e).pulls[i]? = some q ∧ q.returned = true ∧ q.held = [] ∧
      (b.step e).limits = Limits.releaseAll b.limits p.held := by
  obtain ⟨going, leaves⟩ := h.ends here ends
  obtain ⟨q, there, concludes, -⟩ := leaves.concluded
  obtain ⟨-, held, limits⟩ := h.returns funded e here going there concludes.returned
  exact ⟨going, q, there, concludes.returned, held, limits⟩

def Unspent (b m : Broker) : OpenState → Prop
  | .starting | .queued _ => m.limits = b.limits
  | .opened _ _ => m.limits = b.limits ∨ b.pulls.length < m.pulls.length
  | _ => True

theorem OpenMove.unspent (move : m.OpenMove i m') (grown : b.pulls.length ≤ m.pulls.length)
    (unspent : ∀ o, m.openings[i]? = some o → b.Unspent m o.state) (o : Opening)
    (new : m'.openings[i]? = some o) : b.Unspent m' o.state := by
  obtain ⟨r, s⟩ := o
  cases move with
  | queue here up =>
    obtain ⟨-, -, rfl⟩ | ⟨differs, -⟩ := openings_cases here new
    · exact unspent _ here
    · exact absurd rfl differs
  | join here held up seated =>
    obtain ⟨-, -, rfl⟩ | ⟨differs, -⟩ := openings_cases here new
    · exact .inl (unspent _ here)
    · exact absurd rfl differs
  | grant here up poll =>
    obtain ⟨-, -, rfl⟩ | ⟨differs, -⟩ := openings_cases here new
    · refine .inr (Nat.lt_of_le_of_lt grown ?_)
      simp [startPull, finishOpen, setOpening, leave]
    · exact absurd rfl differs
  | refuse error here | turnAway here | arrive deadline here held up seated | wait here poll
  | deny here denied changed | denyGone here denied gone changed | dispose here changed =>
    obtain ⟨-, -, rfl⟩ | ⟨differs, -⟩ := openings_cases here new
    · trivial
    · exact absurd rfl differs

/-- An open that joins a running stream takes nothing from the limits. -/
theorem Sound.joins (h : b.Sound) (funded : b.Funded) (e : Event)
    (before : b.openings[i]? ≠ some ⟨r, .opened place k⟩)
    (answered : (b.step e).openings[i]? = some ⟨r, .opened place k⟩)
    (none : (b.step e).pulls.length = b.pulls.length) : (b.step e).limits = b.limits := by
  by_cases own : e = .run (.opening i)
  · subst own
    obtain ⟨-, unspent⟩ := funded.along h (.run (.opening i))
      (P := fun m => b.pulls.length ≤ m.pulls.length ∧
        ∀ o, m.openings[i]? = some o → b.Unspent m o.state)
      ⟨Nat.le_refl _, fun o _ => by cases o.state <;> first | trivial | exact rfl | exact .inl rfl⟩
      (fun m m' same ⟨grown, unspent⟩ => by
        have length : m'.pulls.length = m.pulls.length := by
          simpa using congrArg List.length same.pulls
        refine ⟨length ▸ grown, fun o there => ?_⟩
        have unspent := unspent o (same.openings ▸ there)
        unfold Unspent at unspent ⊢
        rwa [length, same.limits])
      (fun m m' _ moved ⟨grown, unspent⟩ => by
        have longer : m.pulls.length ≤ m'.pulls.length := by
          simpa using (Move.opening moved).lines.length_le
        exact ⟨Nat.le_trans grown longer, OpenMove.unspent moved grown unspent⟩)
    rcases unspent _ answered with same | grown
    · exact same
    · omega
  · exact absurd (h.answered_back own answered) before

theorem Moves.sizes (moves : Moves b b') (h : b.Funded) :
    b'.limits.map (fun l => (l.name, l.capacity)) =
      b.limits.map fun l => (l.name, l.capacity) := by
  induction moves with
  | refl => rfl
  | tail earlier move ih =>
    have funded := h.moves earlier
    obtain ⟨_, _, traded⟩ := move.trade funded
    exact (traded.limits.sizes funded.balanced.sane).trans ih

theorem weightAt_units (n : Nat) (r : Request) : weightAt n r.units = r.limits.count n :=
  tally_singles (fun _ => rfl) n r.limits

/-- How often the requests of those pulls that go on name the limit at `n`. -/
def load (n : Nat) (starters : List Request) (pulls : List Pull) : Nat :=
  ((starters.zip pulls).map fun (r, p) => if p.returned then 0 else r.limits.count n).sum

theorem weightAt_pulls (n : Nat) {pulls : List Pull}
    (backed : List.Forall₂ Request.Backs rs pulls) :
    weightAt n (pulls.flatMap (·.held)) = load n rs pulls := by
  induction backed with
  | nil => rfl
  | @cons r p rs pulls backs _ ih =>
    have first : weightAt n p.held = if p.returned then 0 else r.limits.count n := by
      rw [backs.2]
      split
      · rfl
      · exact weightAt_units n r
    unfold weightAt load at *
    rw [List.flatMap_cons, tally_append, ih, first]
    rfl

/-- The caps on pulls, given the requests that have started the pulls. -/
structure Capped (b : Broker) (caps : List (String × Nat)) (starters : List Request) : Prop where
  backed : List.Forall₂ Request.Backs starters b.pulls
  sizes : b.limits.map (fun l => (l.name, l.capacity)) = caps
  /-- Units that are not to spare are held by a pull or by an open that acquires. -/
  spare : ∀ (n : Nat) l, b.limits[n]? = some l → l.spare + weightAt n b.held = l.capacity
  counted : ∀ (n : Nat) l, b.limits[n]? = some l → l.acquired = l.released + countAt n b.held
  capped : ∀ (n : Nat) l, b.limits[n]? = some l →
    load n starters b.pulls + weightAt n (b.openings.flatMap Opening.held) ≤ l.capacity
  returns : ∀ (e : Event) (i : Nat) p q, b.pulls[i]? = some p → (b.step e).pulls[i]? = some q →
    p.returned = false → q.returned = true →
      (∃ ending, b.ending? i e = some ending) ∧ q.held = [] ∧
        (b.step e).limits = Limits.releaseAll b.limits p.held
  /-- However a feed ends, its pull gives the units back in that step. -/
  ends : ∀ (e : Event) (i : Nat) p ending, b.pulls[i]? = some p → b.ending? i e = some ending →
    p.returned = false ∧ ∃ q, (b.step e).pulls[i]? = some q ∧ q.returned = true ∧ q.held = [] ∧
      (b.step e).limits = Limits.releaseAll b.limits p.held
  joins : ∀ (e : Event) (i : Nat) r place k, b.openings[i]? ≠ some ⟨r, .opened place k⟩ →
    (b.step e).openings[i]? = some ⟨r, .opened place k⟩ →
      (b.step e).pulls.length = b.pulls.length → (b.step e).limits = b.limits

theorem capped_after (config : BrokerConfig) (caps : List (String × Nat)) (events : List Event) :
    let b := Broker.new config (caps.map fun c => .new c.1 c.2)
    (b.after events).Capped caps (b.starters events) := by
  intro b
  have start : b.Sound := .initial config _
  have sound := start.after events
  have fresh : b.Funded := ⟨.fresh caps, by simp [b, new]⟩
  have funded := fresh.moves (start.moves_after events)
  have none : List.Forall₂ Request.Backs [] b.pulls := .nil
  have backed := start.backs_after fresh events none
  rw [List.nil_append] at backed
  constructor
  case backed => exact backed
  case sizes =>
    rw [(start.moves_after events).sizes fresh]
    exact List.map_map.trans (List.map_id caps)
  case spare => exact funded.balanced.spare
  case counted => exact funded.balanced.counted
  case capped =>
    intro n l here
    have balance := funded.balanced.spare n l here
    have parts : weightAt n (b.after events).held =
        weightAt n ((b.after events).pulls.flatMap (·.held)) +
          weightAt n ((b.after events).openings.flatMap Opening.held) := tally_append
    rw [parts, weightAt_pulls n backed] at balance
    omega
  case returns =>
    intro e i p q here there going ended
    exact sound.returns funded e here going there ended
  case ends =>
    intro e i p ending here ends
    exact sound.gives_back funded here ends
  case joins =>
    intro e i r place k before answered none
    exact sound.joins funded e before answered none

/-- The feed panics, and the unit it had is to spare again. -/
theorem capped_after_panic :
    let b := (Broker.new {} [.new "g" 2]).after (come 0)
    let panic : Event := .turn 0 { ending := some .panicked }
    ∃ p q, b.pulls[0]? = some p ∧ (b.step panic).pulls[0]? = some q ∧ p.returned = false ∧
      q.returned = true ∧ q.held = [] ∧
      (b.step panic).limits = Limits.releaseAll b.limits p.held ∧
      b.limits.map (·.spare) = [1] ∧ (b.step panic).limits.map (·.spare) = [2] := by
  intro b panic
  have capped : b.Capped [("g", 2)] ((Broker.new {} [.new "g" 2]).starters (come 0)) :=
    capped_after {} [("g", 2)] (come 0)
  obtain ⟨p, here⟩ : ∃ p, b.pulls[0]? = some p := Option.isSome_iff_exists.mp (by decide)
  have ends : b.ending? 0 panic = some .panicked := rfl
  obtain ⟨going, q, there, returned, held, limits⟩ := capped.ends panic 0 p _ here ends
  exact ⟨p, q, here, there, going, returned, held, limits, by decide, by decide⟩

end Broker

end Fanout
