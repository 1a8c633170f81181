import Fanout.Proofs.Broker.Reached

namespace Fanout.Broker

variable {b b' : Broker} {i k : Nat} {r : Request} {place : SinkPlace}

structure SingleFlight (b : Broker) : Prop where
  /-- No relay is given a second pull. -/
  one_pull : (b.pulls.map (·.relay)).Nodup
  /-- Pulls stay on record with their relays, whatever happens later. -/
  on_record : ∀ later : List Event,
    b.pulls.map (·.relay) <+: (b.after later).pulls.map (·.relay)
  /-- A viewer is attached in the very step that answers the open. -/
  answered : ∀ (e : Event) (i : Nat) r place k, b.openings[i]? ≠ some ⟨r, .opened place k⟩ →
    (b.step e).openings[i]? = some ⟨r, .opened place k⟩ → (b.step e).attached place = true
  /-- Exactly one pull was started for the relay of a viewer whose open was answered. -/
  served : ∀ (i : Nat) r place k, b.openings[i]? = some ⟨r, .opened place k⟩ →
    (b.pulls.map (·.relay)).count place.1 = 1
  /-- A relay that is not closed is the one in the table under its key. -/
  registered : ∀ (i : Nat) relay, b.registry.relays[i]? = some relay → relay.closed = false →
    b.registry.find? relay.key = some i
  /-- Of two pulls of one key the older one has a closed relay. -/
  older : ∀ (i j : Nat) p q, i < j → b.pulls[i]? = some p → b.pulls[j]? = some q →
    p.key = q.key → ∃ relay, b.registry.relays[p.relay]? = some relay ∧ relay.closed = true

theorem OpenMove.answers (move : b.OpenMove i b') (h : b.Sound)
    (answered : b'.openings[i]? = some ⟨r, .opened place k⟩) : b'.attached place = true := by
  cases move with
  | join here held up seated =>
    obtain ⟨-, -, same⟩ | ⟨differs, -⟩ := openings_cases here answered
    · cases same
      obtain ⟨s, new, -, -, -, present, -⟩ := (seated.seat h.listed).self
      exact attached_iff.mpr ⟨s, new, present⟩
    · exact absurd rfl differs
  | grant here up poll =>
    obtain ⟨-, -, same⟩ | ⟨differs, -⟩ := openings_cases here answered
    · cases same
      obtain ⟨s, old, waits⟩ := h.openingsFit.acquiring _ _ _ _ _ here
      refine attached_iff.mpr ⟨s, old, ?_⟩
      rcases waits.alone with ⟨-, alone⟩ | ⟨-, -, down⟩
      · simp [alone]
      · rw [up] at down
        cases down
    · exact absurd rfl differs
  | refuse error here | queue here up | turnAway here | arrive deadline here held up seated
  | wait here poll | deny here denied changed | denyGone here denied gone changed
  | dispose here changed =>
    obtain ⟨-, -, same⟩ | ⟨differs, -⟩ := openings_cases here answered
    · cases same
    · exact absurd rfl differs

theorem Sound.answered_back {e : Event} (h : b.Sound) (other : e ≠ .run (.opening i))
    (answered : (b.step e).openings[i]? = some ⟨r, .opened place k⟩) :
    b.openings[i]? = some ⟨r, .opened place k⟩ :=
  h.along e
    (P := fun m => m.openings[i]? = some ⟨r, .opened place k⟩ →
      b.openings[i]? = some ⟨r, .opened place k⟩)
    id
    (fun _ _ same before there => before (same.openings ▸ there))
    (fun _ _ _ moved before there => before
      (opening_before other moved nofun nofun there)) answered

theorem Sound.attached (h : b.Sound) (e : Event)
    (before : b.openings[i]? ≠ some ⟨r, .opened place k⟩)
    (answered : (b.step e).openings[i]? = some ⟨r, .opened place k⟩) :
    (b.step e).attached place = true := by
  by_cases own : e = .run (.opening i)
  · refine h.along e
      (P := fun m => m.openings[i]? = some ⟨r, .opened place k⟩ → m.attached place = true)
      (fun there => absurd there before) (fun m m' same attached there => ?_)
      (fun m m' sound moved _ there => ?_) answered
    · have stays := attached (same.openings ▸ there)
      rw [attached_iff] at stays ⊢
      rwa [show m'.roster? = m.roster? from same.rosters]
    · subst own
      exact OpenMove.answers moved sound there
  · exact absurd (h.answered_back own answered) before

theorem PullsFit.older_closed (h : b.PullsFit) {i j : Nat} {p q : Pull} (before : i < j)
    (older : b.pulls[i]? = some p) (newer : b.pulls[j]? = some q) (key : p.key = q.key) :
    ∃ relay, b.registry.relays[p.relay]? = some relay ∧ relay.closed = true := by
  have line {i : Nat} {p : Pull} (there : b.pulls[i]? = some p) :
      (b.pulls.map Pull.line)[i]? = some p.line := by
    rw [List.getElem?_map, there, Option.map_some]
  obtain ⟨smallOlder, lineOlder⟩ := List.getElem?_eq_some_iff.mp (line older)
  obtain ⟨smallNewer, lineNewer⟩ := List.getElem?_eq_some_iff.mp (line newer)
  have outlived := List.pairwise_iff_getElem.mp h.outlived i j smallOlder smallNewer before
  rw [lineOlder, lineNewer] at outlived
  obtain ⟨s, old, -⟩ := h.fits i p older
  obtain ⟨relay, there, rfl⟩ := Registry.relay_of_roster? old
  exact ⟨relay, there, outlived key _ old⟩

theorem Sound.singleFlight (h : b.Sound) : b.SingleFlight where
  one_pull := h.pullsFit.single
  on_record later := by
    have lines := (h.moves_after later).lines.map Prod.snd
    rwa [List.map_map, List.map_map] at lines
  answered e i r place k before answered := h.attached e before answered
  served i r place k answered := by
    obtain ⟨d, there, line⟩ := Option.map_eq_some_iff.mp (h.openingsFit.opened i r place k answered)
    have viewer : d.place = place := congrArg (·.2.1) line
    have pulled := (h.watched.matched k d there).1
    rw [viewer] at pulled
    exact List.count_eq_one_of_mem h.pullsFit.single pulled
  registered i relay there opened := by
    have old := Registry.roster?_of_relay there
    exact h.listed.find?_eq_some_iff.mpr (h.listed.registered i _ old opened)
  older i j p q before older newer key := h.pullsFit.older_closed before older newer key

theorem single_flight (config : BrokerConfig) (limits : Limits) (events : List Event) :
    ((Broker.new config limits).after events).SingleFlight :=
  (sound_after config limits events).singleFlight

example : ((Broker.new {} [.new "g" 2]).after
    [.request { key := ⟨"a"⟩, feed := .plain {}, limits := [0], token := 0 },
      .request { key := ⟨"a"⟩, feed := .plain {}, limits := [0], token := 1 },
      .run (.opening 1), .run (.opening 0)]).pulls.map (·.relay) = [0] := by decide

end Fanout.Broker
