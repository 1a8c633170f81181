import Fanout.Proofs.Broker.Chain.Step
import Fanout.Proofs.Broker.Watched

namespace Fanout.Broker

variable {b b' : Broker} {i j k guard : Nat} {key : StreamKey} {r : Request} {place : SinkPlace}
  {a : Acquisition} {s t : Roster}

theorem PullsFit.roster_of_line (h : b.PullsFit) (line : (key, k) ∈ b.pulls.map Pull.line) :
    ∃ s, b.roster? k = some s ∧ s.key = key := by
  obtain ⟨p, member, same⟩ := List.mem_map.mp line
  obtain ⟨rfl, rfl⟩ := Prod.mk.inj same
  obtain ⟨s, old, fits⟩ := h.relay member
  exact ⟨s, old, fits.1.symm⟩

namespace Sound

theorem move (h : b.Sound) (move : Move b b') : b'.Sound where
  locked := h.locked.move move
  listed := (move.onward h.listed).listed
  pullsFit := .move h move
  openingsFit := .move h move
  watched := .move h move

theorem moves (h : b.Sound) (moves : Moves b b') : b'.Sound := by
  induction moves with
  | refl => exact h
  | tail _ move ih => exact ih.move move

theorem related (h : b.Sound) (p : Pull) (member : p ∈ b.pulls) :
    ∃ s, b.roster? p.relay = some s := by
  obtain ⟨s, old, -⟩ := h.pullsFit.relay member
  exact ⟨s, old⟩

theorem step (h : b.Sound) (e : Event) : (b.step e).Sound := h.moves (step_moves e h.related)

theorem after (h : b.Sound) (events : List Event) : (b.after events).Sound := by
  induction events generalizing b with
  | nil => exact h
  | cons e rest ih => exact ih (h.step e)

/-- What holds at the start of a step and is kept by its moves holds at its end. -/
theorem along (h : b.Sound) (e : Event) {P : Broker → Prop} (start : P b)
    (quiet : ∀ m m', m.Quiet m' → P m → P m')
    (moved : ∀ m m', m.Sound → e.mover m m' → P m → P m') : P (b.step e) := by
  have chain := step_chain e h.related
  generalize b.step e = b' at chain
  induction chain with
  | refl => exact start
  | tail earlier last ih =>
    rcases last with same | move
    · exact quiet _ _ same ih
    · exact moved _ _ (h.moves (moves_of_chain earlier)) move ih

theorem moves_after (h : b.Sound) (events : List Event) : Moves b (b.after events) := by
  induction events generalizing b with
  | nil => exact .refl
  | cons e rest ih => exact (step_moves e h.related).trans (ih (h.step e))

theorem place_eq_of_key (h : b.Sound) (here : b.roster? i = some s) (there : b.roster? j = some t)
    (sOpen : s.closed = false) (tOpen : t.closed = false) (key : s.key = t.key) : i = j := by
  have mine := h.listed.registered i s here sOpen
  have other := h.listed.registered j t there tOpen
  rw [key] at mine
  exact h.listed.eq_of_key mine other

/-- While an open waits for units, the pulls of its key have closed relays. -/
theorem closed_of_acquiring (h : b.Sound) (up : b.shutdown = false)
    (here : b.openings[i]? = some ⟨r, .acquiring guard place a⟩)
    (line : (r.key, k) ∈ b.pulls.map Pull.line) (old : b.roster? k = some s) :
    s.closed = true := by
  obtain ⟨t, mine, waits⟩ := h.openingsFit.acquiring i r guard place a here
  obtain ⟨s, same, key⟩ := h.pullsFit.roster_of_line line
  cases old.symm.trans same
  rcases waits.alone with ⟨tOpen, -⟩ | ⟨-, -, down⟩
  · by_contra opened
    have there := h.place_eq_of_key old mine (by simpa using opened) tOpen
      (key.trans waits.key.symm)
    obtain ⟨p, member, same⟩ := List.mem_map.mp line
    have relay : p.relay = k := congrArg Prod.snd same
    exact waits.unpulled (there ▸ relay ▸ List.mem_map_of_mem member)
  · rw [up] at down
    cases down

end Sound

theorem sound_after (config : BrokerConfig) (limits : Limits) (events : List Event) :
    ((Broker.new config limits).after events).Sound :=
  (Sound.initial config limits).after events

theorem Moves.lines (moves : Moves b b') :
    b.pulls.map Pull.line <+: b'.pulls.map Pull.line := by
  induction moves with
  | refl => exact List.prefix_rfl
  | tail _ move ih => exact ih.trans move.lines

end Fanout.Broker
