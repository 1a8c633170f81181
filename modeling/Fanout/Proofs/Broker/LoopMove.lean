import Fanout.Proofs.Broker.StepwiseBroker
import Fanout.Proofs.Broker.Lifetime

namespace Fanout

theorem Registry.find?_of_seated {g g' : Registry} {key other : StreamKey} {pipe : Pipe}
    {place : Nat × Nat} {first : Bool} {k : Nat} (l : g.Listed)
    (seated : g.Seated key pipe g' place first) (found : g'.find? other = some k) :
    g.find? other = some k ∨ key = other := by
  by_cases same : other = key
  · exact .inr same.symm
  · exact .inl (((Registry.Apart.seated l seated).1.entries other same).symm.trans found)

namespace Broker

variable {b b' : Broker} {i j guard k : Nat} {r : Request} {place : SinkPlace} {key : StreamKey}

inductive LoopMove (b : Broker) : Broker → Prop
  | move {b' : Broker} (move : Move b b') : LoopMove b b'
  | arrive {i guard : Nat} {r : Request} {pipe : Pipe} {g : Registry} {place : SinkPlace}
      (deadline : Option Nat) (here : b.openings[i]? = some ⟨r, .queued guard⟩)
      (held : b.locks.holds guard = true) (seated : b.registry.Seated r.key pipe g place true) :
      LoopMove b
        ({ b with registry := g }.setOpening i
          (.acquiring guard place { wanted := r.units, deadline := deadline }))
  | join {i guard : Nat} {r : Request} {pipe : Pipe} {g : Registry} {place : SinkPlace}
      (here : b.openings[i]? = some ⟨r, .queued guard⟩) (held : b.locks.holds guard = true)
      (seated : b.registry.Seated r.key pipe g place false) :
      LoopMove b ({ b with registry := g }.finishOpen i r guard place)
  | replace {i : Nat} {s : Roster} (key : StreamKey) (old : b.roster? i = some s)
      (closed : s.closed = true) :
      LoopMove b { b with registry := (b.registry.removeIfSame key i).1 }

/-- What is left of the invariant when a shutdown can come between the look at it and the seat. -/
structure Orderly (b : Broker) : Prop where
  locked : b.Locked
  listed : b.registry.Listed
  pulls : ∀ p ∈ b.pulls, ∃ s, b.roster? p.relay = some s
  acquiring : ∀ (i : Nat) r guard place a, b.openings[i]? = some ⟨r, .acquiring guard place a⟩ →
    ∃ s, b.roster? place.1 = some s

theorem Orderly.initial (config : BrokerConfig) (limits : Limits) :
    (Broker.new config limits).Orderly where
  locked := .initial config limits
  listed := .initial config.relay
  pulls := by simp [new]
  acquiring := by simp [new]

def Heads (b : Broker) (i : Nat) (key : StreamKey) : Prop :=
  ∃ r guard, b.openings[i]? = some ⟨r, .queued guard⟩ ∧ b.locks.holds guard = true ∧ r.key = key

theorem heads_of_seated {pipe : Pipe} {g : Registry} {first : Bool} (l : b.registry.Listed)
    (here : b.openings[i]? = some ⟨r, .queued guard⟩) (held : b.locks.holds guard = true)
    (seated : b.registry.Seated r.key pipe g place first) {state : OpenState}
    (next : b'.openings[i]? = some ⟨r, state⟩) (goes : state ≠ .queued guard)
    (found : g.find? key = some k) :
    b.registry.find? key = some k ∨ ∃ i, b.Heads i key ∧ b'.openings[i]? ≠ b.openings[i]? := by
  refine (Registry.find?_of_seated l seated found).imp_right fun same => ?_
  refine ⟨i, ⟨r, guard, here, held, same⟩, fun stays => goes ?_⟩
  rw [next, here, Option.some.injEq, Opening.mk.injEq] at stays
  exact stays.2

theorem Move.find? (move : Move b b') (l : b.registry.Listed)
    (found : b'.registry.find? key = some k) :
    b.registry.find? key = some k ∨ ∃ i, b.Heads i key ∧ b'.openings[i]? ≠ b.openings[i]? := by
  have shrunk (shrinks : b.registry.Shrinks b'.registry) := l.find?_of_sublist shrinks.table found
  have changed {n : Nat} {f : Roster → Roster}
      (h : Registry.Changed n f b.registry b'.registry) := l.find?_of_sublist h.sub found
  cases move with
  | quiet same => exact .inl (shrunk (.of_same same.rosters same.table))
  | outer move => exact .inl (shrunk move.shrinks)
  | opening move =>
    cases move with
    | refuse | queue | turnAway | wait | grant => exact .inl found
    | deny here denied h => exact .inl (changed h)
    | denyGone here denied gone h => exact .inl (changed h)
    | dispose here h => exact .inl (changed h)
    | arrive deadline here held up seated =>
      exact heads_of_seated l here held seated (getElem?_setOpening here _) nofun found
    | join here held up seated =>
      exact heads_of_seated l here held seated (getElem?_setOpening here _) nofun found
  | departure move => exact .inl (shrunk move.shrinks)
  | pull move => exact .inl (shrunk move.shrinks)
  | stop move => exact .inl (shrunk move.shrinks)

namespace LoopMove

theorem shift (loopMove : b.LoopMove b') : b.Shift b' := by
  cases loopMove with
  | move move => exact move.shift
  | arrive deadline here held seated =>
    exact .getIn (stake?_of_opening here) held rfl (stake?_setOpening here (.acquiring _ _ _))
  | @join i guard r pipe g place here held seated =>
    exact .leave (stake?_of_opening here) rfl (stake?_finishOpen here r guard place)
  | replace key old closed => exact .stay rfl rfl

theorem onward (loopMove : b.LoopMove b') (l : b.registry.Listed) :
    b.registry.Onward b'.registry := by
  cases loopMove with
  | move move => exact move.onward l
  | arrive deadline here held seated => exact seated.onward l
  | join here held seated => exact seated.onward l
  | @replace i s key old closed =>
    have shut (t : Roster) (there : b.registry.roster? i = some t) : t.closed = true := by
      rw [show b.registry.roster? i = some s from old, Option.some.injEq] at there
      exact there ▸ closed
    exact (Registry.removeIfSame_changed key shut).onward l fun t _ => .refl t

theorem find? (loopMove : b.LoopMove b') (l : b.registry.Listed)
    (found : b'.registry.find? key = some k) :
    b.registry.find? key = some k ∨ ∃ i, b.Heads i key ∧ b'.openings[i]? ≠ b.openings[i]? := by
  cases loopMove with
  | move move => exact move.find? l found
  | arrive deadline here held seated =>
    exact heads_of_seated l here held seated (getElem?_setOpening here _) nofun found
  | join here held seated =>
    exact heads_of_seated l here held seated (getElem?_setOpening here _) nofun found
  | @replace i s key' old closed =>
    exact .inl (l.find?_of_sublist (Registry.removeIfSame_sublist key' i) found)

theorem down (loopMove : b.LoopMove b') (down : b.shutdown = true) : b'.shutdown = true := by
  cases loopMove with
  | move move =>
    rcases move.shutdown_cases with same | ⟨down', -⟩
    · exact same.trans down
    · exact down'
  | arrive | join | replace => exact down

end LoopMove

theorem OpenMove.acquires (move : b.OpenMove i b') (l : b.registry.Listed) {a : Acquisition}
    (new : b'.openings[j]? = some ⟨r, .acquiring guard place a⟩) :
    (∃ a', b.openings[j]? = some ⟨r, .acquiring guard place a'⟩) ∨
      ∃ s, b'.roster? place.1 = some s := by
  cases move with
  | arrive deadline here held up seated =>
    rcases openings_cases here new with ⟨-, -, same⟩ | ⟨-, old⟩
    · cases same
      obtain ⟨s, there, -⟩ := (seated.seat l).self
      exact .inr ⟨s, there⟩
    · exact .inl ⟨a, old⟩
  | wait here poll =>
    rcases openings_cases here new with ⟨rfl, rfl, same⟩ | ⟨-, old⟩
    · cases same
      exact .inl ⟨_, here⟩
    · exact .inl ⟨a, old⟩
  | refuse error here | queue here up | turnAway here | join here held up seated
  | grant here up poll | deny here denied changed | denyGone here denied gone changed
  | dispose here changed =>
    rcases openings_cases here new with ⟨-, -, same⟩ | ⟨-, old⟩
    · cases same
    · exact .inl ⟨a, old⟩

theorem LoopMove.acquires (loopMove : b.LoopMove b') (l : b.registry.Listed) {a : Acquisition}
    (new : b'.openings[j]? = some ⟨r, .acquiring guard place a⟩) :
    (∃ a', b.openings[j]? = some ⟨r, .acquiring guard place a'⟩) ∨
      ∃ s, b'.roster? place.1 = some s := by
  cases loopMove with
  | move move =>
    cases move with
    | quiet same => exact .inl ⟨a, same.openings ▸ new⟩
    | outer move =>
      rcases move.openings new with old | same | same
      · exact .inl ⟨a, old⟩
      · cases same
      · cases same
    | opening move => exact move.acquires l new
    | departure move => exact .inl ⟨a, by cases move <;> exact new⟩
    | pull move => exact .inl ⟨a, by cases move <;> exact new⟩
    | stop move => exact .inl ⟨a, by cases move <;> exact new⟩
  | arrive deadline here held seated =>
    rcases openings_cases here new with ⟨-, -, same⟩ | ⟨-, old⟩
    · cases same
      obtain ⟨s, there, -⟩ := (seated.seat l).self
      exact .inr ⟨s, there⟩
    · exact .inl ⟨a, old⟩
  | join here held seated =>
    rcases openings_cases here new with ⟨-, -, same⟩ | ⟨-, old⟩
    · cases same
    · exact .inl ⟨a, old⟩
  | replace key old closed => exact .inl ⟨a, new⟩

theorem LoopMove.pulls (loopMove : b.LoopMove b') (l : b.registry.Listed) {p' : Pull}
    (member : p' ∈ b'.pulls) :
    (∃ p ∈ b.pulls, p.relay = p'.relay) ∨
      ∃ (i : Nat) (r : Request) (guard : Nat) (place : SinkPlace) (a : Acquisition),
        b.openings[i]? = some ⟨r, .acquiring guard place a⟩ ∧ place.1 = p'.relay := by
  have earlier (line : p'.line ∈ b.pulls.map Pull.line) : ∃ p ∈ b.pulls, p.relay = p'.relay := by
    obtain ⟨p, here, same⟩ := List.mem_map.mp line
    exact ⟨p, here, congrArg Prod.snd same⟩
  have line : p'.line ∈ b'.pulls.map Pull.line := List.mem_map_of_mem member
  cases loopMove with
  | move move =>
    cases move.effect l with
    | fade registry lines => exact .inl (earlier (lines ▸ line))
    | seat here held up seat pulls => exact .inl (earlier (pulls ▸ line))
    | @start i guard r place a here registry lines =>
      rw [lines, List.mem_append, List.mem_singleton] at line
      rcases line with old | new
      · exact .inl (earlier old)
      · exact .inr ⟨i, r, guard, place, a, here, (congrArg Prod.snd new).symm⟩
  | arrive | join | replace => exact .inl ⟨p', member, rfl⟩

namespace Orderly

theorem loopMove (h : b.Orderly) (loopMove : b.LoopMove b') : b'.Orderly := by
  obtain ⟨listed, later⟩ := loopMove.onward h.listed
  have kept {n : Nat} (old : ∃ s, b.roster? n = some s) : ∃ s, b'.roster? n = some s := by
    obtain ⟨s, there⟩ := old
    obtain ⟨s', new, -⟩ := later n s there
    exact ⟨s', new⟩
  refine ⟨h.locked.shift loopMove.shift, listed, fun p' member => ?_, ?_⟩
  · rcases loopMove.pulls h.listed member with ⟨p, here, same⟩ | ⟨i, r, guard, place, a, here, same⟩
    · exact same ▸ kept (h.pulls p here)
    · exact same ▸ kept (h.acquiring i r guard place a here)
  · intro i r guard place a new
    rcases loopMove.acquires h.listed new with ⟨a', old⟩ | seated
    · exact kept (h.acquiring i r guard place a' old)
    · exact seated

theorem step (h : b.Orderly) (e : Event) : (b.step e).Orderly := by
  have moves := step_moves e h.pulls
  generalize b.step e = b' at moves
  induction moves with
  | refl => exact h
  | tail _ move ih => exact ih.loopMove (.move move)

theorem after (h : b.Orderly) (events : List Event) : (b.after events).Orderly := by
  induction events generalizing b with
  | nil => exact h
  | cons e events ih => exact ih (h.step e)

end Orderly

/-- Moves of others during which the open at `j` does not line up. -/
structure Beside (j : Nat) (b b' : Broker) : Prop where
  loopMove : b.LoopMove b'
  before : ∀ r guard, b'.openings[j]? = some ⟨r, .queued guard⟩ →
    b.openings[j]? = some ⟨r, .queued guard⟩

abbrev LoopMoves (j : Nat) : Broker → Broker → Prop := Relation.ReflTransGen (Beside j)

theorem Chain.loopMoves {kind : Broker → Broker → Prop} (chain : Chain kind b b')
    (moved : ∀ m m', kind m m' → Move m m' ∧ ∀ r guard,
      m'.openings[j]? = some ⟨r, .queued guard⟩ → m.openings[j]? = some ⟨r, .queued guard⟩) :
    LoopMoves j b b' := by
  refine Relation.ReflTransGen.mono (fun m m' link => ?_) _ _ chain
  rcases link with same | link
  · exact ⟨.move (.quiet same), fun r guard there => same.openings ▸ there⟩
  · exact ⟨.move (moved m m' link).1, (moved m m' link).2⟩

/-- The steps of others. -/
theorem step_loopMoves (related : ∀ p ∈ b.pulls, ∃ s, b.roster? p.relay = some s) {e : Event}
    (foreign : e.isOf j = false) : LoopMoves j b (b.step e) := by
  have other : e ≠ .run (.opening j) := fun same => by
    rw [Event.isOf_iff.mpr (.inl same)] at foreign
    cases foreign
  exact (step_chain e related).loopMoves fun _ _ moved =>
    ⟨move_of_mover moved, fun _ _ there => opening_before other moved nofun nofun there⟩

theorem openMoves_loopMoves (differs : j ≠ i) (chain : Chain (·.OpenMove i ·) b b') :
    LoopMoves j b b' :=
  chain.loopMoves fun _ _ move =>
    ⟨.opening move, fun _ _ there => (OpenMove.other move differs) ▸ there⟩

theorem conclude_loopMoves {pipe : Pipe} {g : Registry} {first : Bool} (differs : j ≠ i)
    (here : b.openings[i]? = some ⟨r, .queued guard⟩) (held : b.locks.holds guard = true)
    (seated : b.registry.Seated r.key pipe g place first) :
    LoopMoves j b ({ b with registry := g }.conclude i r guard (.as place first)) := by
  have other (m : Broker) (state : OpenState) (openings : m.openings = b.openings) (r' : Request)
      (guard' : Nat) (there : (m.setOpening i state).openings[j]? = some ⟨r', .queued guard'⟩) :
      b.openings[j]? = some ⟨r', .queued guard'⟩ := by
    rw [opening_other m state differs, openings] at there
    exact there
  cases first with
  | false => exact .single ⟨.join here held seated, other _ _ rfl⟩
  | true =>
    refine .head ⟨.arrive (some (b.now + b.config.acquireTimeout)) here held seated,
      other _ _ rfl⟩ ?_
    exact openMoves_loopMoves differs (conclude_moves (b := { b with registry := g }) here)

namespace LoopMoves

theorem orderly (loopMoves : LoopMoves j b b') (h : b.Orderly) : b'.Orderly := by
  induction loopMoves with
  | refl => exact h
  | tail _ last ih => exact ih.loopMove last.loopMove

theorem down (loopMoves : LoopMoves j b b') (down : b.shutdown = true) : b'.shutdown = true := by
  induction loopMoves with
  | refl => exact down
  | tail _ last ih => exact last.loopMove.down ih

end LoopMoves

end Broker

end Fanout
