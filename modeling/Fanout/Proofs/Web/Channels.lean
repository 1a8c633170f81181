import Fanout.Feed.Alone
import Fanout.Proofs.Stream.Belonging
import Fanout.Proofs.Web.Gateway
import Fanout.Proofs.Web.Stopping

namespace Fanout

namespace Broker

variable {b : Broker}

def viewersUnder (b : Broker) (key : StreamKey) : Nat :=
  ((b.registry.find? key).bind (b.registry.relays[·]?)).elim 0 (·.viewerCount)

theorem relay_of_entry (h : b.registry.Listed) {entry : StreamKey × Nat}
    (member : entry ∈ b.registry.table) :
    ∃ r, b.registry.relays[entry.2]? = some r ∧ r.key = entry.1 ∧
      b.viewersUnder entry.1 = r.viewerCount := by
  obtain ⟨s, old, named⟩ := h.named entry member
  obtain ⟨r, here, rfl⟩ := Registry.relay_of_roster? old
  have found : b.registry.find? entry.1 = some entry.2 := h.find?_eq_some_iff.mpr member
  refine ⟨r, here, named, ?_⟩
  rw [viewersUnder, found, Option.bind_some, here]
  rfl

theorem sum_clients (h : b.registry.Listed) (url : String) {entries : List (StreamKey × Nat)}
    (known : ∀ e ∈ entries, e ∈ b.registry.table) :
    sum (((entries.filterMap fun e => b.registry.relays[e.2]?.map (·.stats)).filter
        (·.key.belongsTo url)).map (·.clients)) =
      sum (((entries.map (·.1)).filter (·.belongsTo url)).map b.viewersUnder) := by
  induction entries with
  | nil => rfl
  | cons e rest ih =>
    obtain ⟨r, here, key, viewers⟩ := relay_of_entry h (known e List.mem_cons_self)
    have others := ih fun e' member => known e' (List.mem_cons_of_mem _ member)
    have same : r.stats.key.belongsTo url = e.1.belongsTo url := congrArg (·.belongsTo url) key
    simp only [List.filterMap_cons, here, Option.map_some, List.map_cons, List.filter_cons, same]
    split
    · have clients : r.stats.clients = b.viewersUnder e.1 := viewers.symm
      rw [List.map_cons, List.map_cons, clients]
      exact congrArg (b.viewersUnder e.1 + ·) others
    · exact others

theorem viewersOf_eq (h : b.registry.Listed) (c : Channel) :
    Gateway.viewersOf c b.registry.stats =
      sum ((Gateway.streamsOf c b.registry.keys).map b.viewersUnder) := by
  -- both lists are sorted, which makes no difference to a sum
  have stats := List.mergeSort_perm
    (b.registry.table.filterMap fun e => b.registry.relays[e.2]?.map (·.stats))
    (·.key.text ≤ ·.key.text)
  have keys := List.mergeSort_perm (b.registry.table.map (·.1)) (·.text ≤ ·.text)
  calc Gateway.viewersOf c b.registry.stats
      = sum (((b.registry.table.filterMap fun e =>
          b.registry.relays[e.2]?.map (·.stats)).filter (·.key.belongsTo c.url)).map (·.clients)) :=
        ((stats.filter _).map _).sum_eq
    _ = sum (((b.registry.table.map (·.1)).filter (·.belongsTo c.url)).map b.viewersUnder) :=
        sum_clients h c.url fun _ member => member
    _ = sum ((Gateway.streamsOf c b.registry.keys).map b.viewersUnder) :=
        ((keys.filter _).map _).sum_eq.symm

theorem mem_streamsOf_iff (h : b.registry.Listed) {c : Channel} {key : StreamKey} :
    key ∈ Gateway.streamsOf c b.registry.keys ↔
      key.belongsTo c.url = true ∧ ∃ j, b.registry.find? key = some j := by
  have keys := List.mergeSort_perm (b.registry.table.map (·.1)) (·.text ≤ ·.text)
  rw [Gateway.streamsOf, List.mem_filter, and_comm]
  refine and_congr_right fun _ => ?_
  rw [Registry.keys, keys.mem_iff, List.mem_map]
  constructor
  · rintro ⟨e, member, rfl⟩
    exact ⟨e.2, h.find?_eq_some_iff.mpr member⟩
  · rintro ⟨j, found⟩
    exact ⟨(key, j), h.find?_eq_some_iff.mp found, rfl⟩

end Broker

namespace Web

variable {config : Config} {b : Broker} {g : Gateway} {c : Channel} {name part : String}

/-- What a request to stop a channel does to a broker, and what it is answered with. -/
structure StopsChannel (c : Channel) (b : Broker) (answer : Broker × Option Reply) : Prop where
  /-- The stops that it asks for leave everything alone that does not belong to the address. -/
  spares : Broker.Clearing c.url b.stops.length b answer.1
  /-- With an answer, no stream that belonged to the address is in service, and nobody is attached
  to it but those whom its feed, which has ended, is about to take off. -/
  stopped : answer.2 ≠ none → ∀ key j, key.belongsTo c.url = true →
    b.registry.find? key = some j →
      (∃ relay, answer.1.registry.relays[j]? = some relay ∧ relay.closed = true) ∧
      (∀ other, answer.1.registry.find? other ≠ some j) ∧
      ∀ id, answer.1.attached (j, id) = true → ∃ p ∈ answer.1.pulls, p.relay = j ∧ p.returned = true
  reply : ∀ r, answer.2 = some r → ∃ n ≤ (Gateway.streamsOf c b.registry.keys).length,
    r = .json 200 true [("stopped", .number n)]

theorem stopChannel_eq (known : g.channel? name = some c) (b : Broker) :
    stopChannel g b name =
      ((stopAll (Gateway.streamsOf c b.registry.keys) b 0).1,
        (stopAll (Gateway.streamsOf c b.registry.keys) b 0).2.map fun n =>
          .json 200 true [("stopped", .number n)]) := by
  rw [stopChannel, known]

theorem stopChannel_stops (sound : b.Sound) (minded : b.Minded) (aimed : b.Aimed)
    (known : g.channel? name = some c) :
    StopsChannel c b (stopChannel g b name) := by
  rw [stopChannel_eq known]
  have staffed : b.Staffed c.url b.stops.length := by
    refine ⟨sound, minded, aimed, Nat.le_refl _, fun i s late here => ?_⟩
    exact absurd (List.getElem?_eq_some_iff.mp here).1 (Nat.not_lt.mpr late)
  have belongs (key : StreamKey) (member : key ∈ Gateway.streamsOf c b.registry.keys) :
      key.belongsTo c.url = true := ((b.mem_streamsOf_iff sound.listed).mp member).1
  have done := staffed.stopAll belongs 0
  generalize stopAll (Gateway.streamsOf c b.registry.keys) b 0 = answer at done
  obtain ⟨events, run⟩ := done.run
  refine ⟨done.clearing, fun answered key j belongs found => ?_, fun r replied => ?_⟩
  · have member := (b.mem_streamsOf_iff sound.listed).mpr ⟨belongs, j, found⟩
    have counted : answer.2 ≠ none := by simpa using answered
    have shut := done.shut counted key member j (sound.listed.serves found)
    have ended : answer.1.Sound := run ▸ sound.after events
    exact ⟨Broker.exists_relay_iff.mpr shut.1, shut.2, fun id => ended.leaving_of_shut shut⟩
  · obtain ⟨n, counted, rfl⟩ := Option.map_eq_some_iff.mp replied
    exact ⟨n, by simpa using done.counted n counted, rfl⟩

/-- How many viewers a channel is listed with, and which streams those are the viewers of. -/
structure ListsChannel (c : Channel) (b : Broker) : Prop where
  viewers : Gateway.viewersOf c b.registry.stats =
    sum ((Gateway.streamsOf c b.registry.keys).map b.viewersUnder)
  streams : ∀ key, key ∈ Gateway.streamsOf c b.registry.keys ↔
    key.belongsTo c.url = true ∧ ∃ j, b.registry.find? key = some j

/-- In every valid configuration and whatever has happened before, a request to stop a channel stops
the streams that belong to its address and leaves all others alone, and the channel is listed with
the viewers of these streams. Every stream of the channel is among them, whatever the query, and
one of another channel only can be if the addresses are the same or overlap. -/
theorem channel_stops (valid : config.validate = .ok ()) (member : c ∈ config.channels)
    (decoded : decodePart? part = some c.name) (maxFeeds : Nat) (env : Environment)
    (events : List Event) (query : Option String) :
    let b := (Gateway.brokerOf config maxFeeds).after events
    StopsChannel c b (answerOn (Gateway.new config maxFeeds env) b query (.stop part)) ∧
      ListsChannel c b ∧ (∀ q, (c.streamKey q).belongsTo c.url = true) ∧
      ∀ d : Channel,
        ((∃ q, (d.streamKey q).belongsTo c.url = true) ↔
          d.url = c.url ∨ StreamKey.Overlaps c.url d.url) ∧
        ('?' ∉ c.url.toList → '?' ∉ d.url.toList → ¬ StreamKey.Overlaps c.url d.url) := by
  intro b
  have initial := Broker.Sound.initial config.broker.brokerConfig (Gateway.limitsOf config maxFeeds)
  have sound : b.Sound := initial.after events
  have minded : b.Minded := (Broker.Minded.initial _ _).after initial events
  have aimed : b.Aimed := (Broker.Aimed.initial _ _).after initial events
  have known : (Gateway.new config maxFeeds env).channel? c.name = some c :=
    (Gateway.channel?_eq_some_iff valid).mpr ⟨member, rfl⟩
  have answer : answerOn (Gateway.new config maxFeeds env) b query (.stop part) =
      stopChannel (Gateway.new config maxFeeds env) b c.name := by
    rw [answerOn, decoded]
  refine ⟨?_, ⟨b.viewersOf_eq sound.listed c, fun key => b.mem_streamsOf_iff sound.listed⟩,
    StreamKey.belongsTo_ofQuery c.url, fun d => ⟨StreamKey.exists_belongsTo_iff, ?_⟩⟩
  · rw [answer]
    exact stopChannel_stops sound minded aimed known
  · intro plain other overlap
    exact overlap.marked.elim plain other

theorem channel_stops_alone :
    let c : Channel := { name := "a", url := "http://up/a" }
    let b := (Gateway.brokerOf { channels := [c] } 0).after
      [.token false, .request { key := c.streamKey none, feed := .plain {}, token := 0 },
        .run (.opening 0)]
    let answer := answerOn (Gateway.new { channels := [c] } 0 .offline) b none (.stop "a")
    ({ channels := [c] } : Config).validate = .ok () ∧ decodePart? "a" = some c.name ∧
      StopsChannel c b answer ∧ b.registry.find? (c.streamKey none) = some 0 ∧
      answer.2.isSome = true ∧ answer.1.registry.find? (c.streamKey none) = none := by
  intro c b answer
  have valid : ({ channels := [c] } : Config).validate = .ok () := by decide
  have decoded : decodePart? "a" = some c.name := by decide +kernel
  exact ⟨valid, decoded, (channel_stops valid (List.mem_singleton.mpr rfl) decoded 0 _ _ none).1,
    by decide +kernel, by decide +kernel, by decide +kernel⟩

/-- No query to the first address makes the key of the second one, which begins with two question
marks after it. Still the channel of the first is listed with the viewer of the second, whom a
request to stop the channel disconnects. -/
theorem channel_stops_another :
    let c : Channel := { name := "a", url := "http://up/a" }
    let d : Channel := { name := "b", url := "http://up/a??x=1" }
    let config : Config := { channels := [c, d] }
    let b := (Gateway.brokerOf config 0).after
      [.token false, .request { key := d.streamKey none, feed := .plain {}, token := 0 },
        .run (.opening 0)]
    let answer := stopChannel (Gateway.new config 0 .offline) b "a"
    config.validate = .ok () ∧ (∀ q, c.streamKey q ≠ d.streamKey none) ∧
      b.registry.find? (d.streamKey none) = some 0 ∧ b.attached (0, 1) = true ∧
      Gateway.viewersOf c b.registry.stats = 1 ∧
      answer.2.isSome = true ∧ answer.1.registry.find? (d.streamKey none) = none ∧
      answer.1.attached (0, 1) = false := by
  intro c d config b answer
  have apart (q : Option String) : c.streamKey q ≠ d.streamKey none := by
    intro same
    have tail : StreamKey.keyTail q = ['?', '?', 'x', '=', '1'] := by
      have keys : c.url.toList ++ StreamKey.keyTail q =
          c.url.toList ++ ['?', '?', 'x', '=', '1'] := by
        rw [← StreamKey.ofQuery_toList, ← Channel.streamKey, same]
        decide
      exact List.append_cancel_left keys
    -- a query that adds anything adds one question mark and no second one
    rcases StreamKey.keyTail_cases q with none | ⟨rest, some, head⟩
    · rw [tail] at none
      cases none
    · rw [tail] at some
      cases some
      exact head rfl
  exact ⟨by decide, apart, by decide +kernel, by decide +kernel, by decide +kernel,
    by decide +kernel, by decide +kernel, by decide +kernel⟩

end Web

end Fanout
