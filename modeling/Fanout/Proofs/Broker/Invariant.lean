import Fanout.Proofs.Broker.Locked
import Fanout.Proofs.Broker.Onward
import Fanout.Proofs.Lookup

namespace Fanout

/-- How a pull stands to its relay. Until its feed has ended, the relay is closed exactly when nobody
is attached, and the pull is told so exactly then. -/
def Pull.Fits (p : Pull) (s : Roster) : Prop :=
  p.key = s.key ∧
    match p.state with
    | .starting | .queued _ =>
      p.canceled = false ∧ p.watcher = .unborn ∧ s.signals = [] ∧ s.ClosedIffEmpty
    | .running =>
      p.listener = 1 ∧ s.Told ∧ s.ClosedIffEmpty ∧
        (p.watcher = .waiting ∧ p.canceled = false ∨
          p.watcher = .ended ∧ p.canceled = true ∧ s.present = [])
    | .leaving _ _ _ => s.closed = true ∧ p.watcher = .ended ∧ (p.canceled = true → s.present = [])
    | .closing _ _ _ | .ended _ => s.closed = true ∧ p.watcher = .ended ∧ s.present = []

def Pull.line (p : Pull) : StreamKey × Nat := (p.key, p.relay)

def Departure.line (d : Departure) : StreamKey × SinkPlace × Nat := (d.key, d.place, d.token)

/-- How a departure stands to the relay of its viewer. -/
def Departure.Fits (d : Departure) (s : Roster) : Prop :=
  s.key = d.key ∧ d.place.2 ≤ s.seats ∧
    match d.state with
    | .watching | .queued _ => s.closed = true ∨ d.place.2 ∈ s.present
    | .closing | .ended => d.place.2 ∉ s.present

namespace Broker

variable {b b' : Broker}

def Pulled (b : Broker) (j : Nat) : Prop := j ∈ b.pulls.map (·.relay)

/-- The older of two pulls, each by its key and its relay, has a closed relay if it has the key of
the newer one. -/
def Outlived (b : Broker) (older newer : StreamKey × Nat) : Prop :=
  older.1 = newer.1 → ∀ s, b.roster? older.2 = some s → s.closed = true

structure PullsFit (b : Broker) : Prop where
  fits : ∀ (i : Nat) p, b.pulls[i]? = some p → ∃ s, b.roster? p.relay = some s ∧ p.Fits s
  single : (b.pulls.map (·.relay)).Nodup
  unheard : ∀ j s, b.roster? j = some s → ¬ b.Pulled j → s.signals = []
  outlived : (b.pulls.map Pull.line).Pairwise b.Outlived

/-- The viewer of an open that still acquires units is alone on an open relay, unless the broker
was shut down. -/
structure Awaits (b : Broker) (r : Request) (place : SinkPlace) (s : Roster) : Prop where
  key : s.key = r.key
  seated : place.2 ≤ s.seats
  unpulled : ¬ b.Pulled place.1
  alone : s.closed = false ∧ s.present = [place.2] ∨
    s.closed = true ∧ s.present = [] ∧ b.shutdown = true

def Expected (b : Broker) (j : Nat) : Prop :=
  ∃ i : Nat, ∃ r guard place a,
    b.openings[i]? = some ⟨r, .acquiring guard place a⟩ ∧ place.1 = j

structure OpeningsFit (b : Broker) : Prop where
  acquiring : ∀ (i : Nat) r guard place a, b.openings[i]? = some ⟨r, .acquiring guard place a⟩ →
    ∃ s, b.roster? place.1 = some s ∧ b.Awaits r place s
  opened : ∀ (i : Nat) r place k, b.openings[i]? = some ⟨r, .opened place k⟩ →
    b.departures[k]?.map Departure.line = some (r.key, place, r.token)
  unpulled : ∀ j s, b.roster? j = some s → s.present ≠ [] → ¬ b.Pulled j → b.Expected j

structure Watched (b : Broker) : Prop where
  matched : ∀ (k : Nat) d, b.departures[k]? = some d → b.Pulled d.place.1 ∧
    ∃ s, b.roster? d.place.1 = some s ∧ d.Fits s
  single : (b.departures.map (·.place)).Nodup
  dismissed : ∀ (k : Nat) d, b.departures[k]? = some d → d.state ≠ .watching → b.Dismissed d

structure Sound (b : Broker) : Prop where
  locked : b.Locked
  listed : b.registry.Listed
  pullsFit : b.PullsFit
  openingsFit : b.OpeningsFit
  watched : b.Watched

theorem Sound.initial (config : BrokerConfig) (limits : Limits) :
    (Broker.new config limits).Sound where
  locked := .initial config limits
  listed := .initial config.relay
  pullsFit := ⟨by simp [new], by simp [new], by simp [new, roster?, Registry.roster?], by simp [new]⟩
  openingsFit := ⟨by simp [new], by simp [new], by simp [new, roster?, Registry.roster?]⟩
  watched := ⟨by simp [new], by simp [new], by simp [new]⟩

end Broker

end Fanout
