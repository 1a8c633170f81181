import Fanout.Feed.Alone
import Fanout.Proofs.Broker.Faultless
import Fanout.Proofs.Web.Gateway
import Fanout.Web.Answer

namespace Fanout.Web

variable {config : Config} {maxFeeds : Nat} {env : Environment} {b : Broker} {name part : String}
  {query : Option String} {reply : Reply} {r : Request}

def openAnswer (b : Broker) (i : Nat) : Broker × Option Reply :=
  match b.openings[i]?.map Opening.state with
  | some (.opened _ _) => (b, some (.stream i))
  | some (.refused e) => (b, some (.ofOpenError e))
  | _ => (b.abandonOpen i, none)

theorem openStream_of_request {g : Gateway} (asked : g.requestFor name query b.tokens.length = .ok r) :
    openStream g b name query =
      openAnswer (Broker.machine.await (!·.openPending b.openings.length)
        ((b.step (.token false)).step (.request r))).1 b.openings.length := by
  rw [openStream, asked]
  -- the wait is a long computation, which only has to be named here
  obtain ⟨await, same⟩ : ∃ await, await = Machine.await Broker.machine := ⟨_, rfl⟩
  rw [← same]
  rfl

theorem status_openAnswer {i : Nat} (asks : b.Asks i r) (replied : (openAnswer b i).2 = some reply) :
    reply.status ∈ [200, 429, 503] := by
  obtain ⟨state, here, faultless⟩ := asks
  rw [openAnswer, here] at replied
  cases state with
  | opened place k =>
    cases replied
    exact List.mem_cons_self
  | refused e =>
    cases replied
    cases e with
    | invalidKey key => exact absurd rfl (faultless key)
    | capacityExceeded | closed => decide
  | _ => cases replied

theorem status_of_request {g : Gateway} (asked : g.requestFor name query b.tokens.length = .ok r)
    (solid : r.key.isBlank = false) (sound : b.Sound) (minded : b.Minded)
    (replied : (openStream g b name query).2 = some reply) : reply.status ∈ [200, 429, 503] := by
  have asks : ((b.step (.token false)).step (.request r)).Asks b.openings.length r :=
    ⟨.starting, by simp [Broker.step, Broker.requestOpen], .of_none rfl⟩
  have tokened := sound.step (.token false)
  have waited := asks.waited solid (tokened.step (.request r))
    ((minded.step sound (.token false)).step tokened (.request r))
    (Broker.machine.await_steps (!·.openPending b.openings.length) _)
  rw [openStream_of_request asked] at replied
  exact status_openAnswer waited replied

theorem status_openStream (valid : config.validate = .ok ()) (sound : b.Sound) (minded : b.Minded)
    (replied : (openStream (Gateway.new config maxFeeds env) b name query).2 = some reply) :
    reply.status ∈ [200, 404, 429, 503] := by
  rcases Gateway.requestFor_of_valid valid maxFeeds env name query b.tokens.length with
    ⟨c, member, -, asked⟩ | ⟨-, asked⟩
  · have solid := ((Config.channels_of_valid valid).2 c member).2.key query
    have status := status_of_request asked solid sound minded replied
    simp only [List.mem_cons, List.not_mem_nil, or_false] at status ⊢
    omega
  · rw [openStream, asked] at replied
    cases replied
    simp [Reply.ofChannelError, Reply.plain]

theorem status_answerOn (valid : config.validate = .ok ()) (sound : b.Sound) (minded : b.Minded)
    (replied : (answerOn (Gateway.new config maxFeeds env) b query (.stream part)).2 = some reply) :
    reply.status ∈ [200, 400, 404, 429, 503] := by
  unfold answerOn at replied
  dsimp only at replied
  split at replied
  · have status := status_openStream valid sound minded replied
    simp only [List.mem_cons, List.not_mem_nil, or_false] at status ⊢
    omega
  · cases replied
    decide

theorem status_dropBody (b : Broker) (r : Reply) : (dropBody b r).2.status = r.status := by
  unfold dropBody
  split <;> rfl

theorem status_answer (valid : config.validate = .ok ()) (sound : b.Sound) (minded : b.Minded)
    {request : WebRequest} (path : Route.ofPath? request.path = some (.stream part))
    (replied : (answer (Gateway.new config maxFeeds env) b request).2 = some reply) :
    reply.status ∈ [200, 400, 404, 405, 429, 503] := by
  have status : ∀ first,
      (answerOn (Gateway.new config maxFeeds env) b request.query (.stream part)).2 = some first →
        first.status ∈ [200, 400, 404, 429, 503] :=
    fun first => status_answerOn valid sound minded
  unfold answer at replied
  rw [path] at replied
  dsimp only at replied
  generalize answerOn (Gateway.new config maxFeeds env) b request.query (.stream part) = found
    at status replied
  obtain ⟨b', answered⟩ := found
  split at replied
  · cases replied
    simp [Reply.forAnyOrigin, Reply.allowing]
  · split at replied
    · cases replied
      simp [Reply.forAnyOrigin, Reply.allowing]
    · cases answered with
      | none => cases replied
      | some first =>
        have kept := status first rfl
        have same : reply.status = first.status := by
          cases replied
          dsimp only [Reply.forAnyOrigin]
          split
          · exact status_dropBody b' first
          · rfl
        rw [same]
        simp only [List.mem_cons, List.not_mem_nil, or_false] at kept ⊢
        omega

/-- What the request for a stream of a channel asks for: the one channel of that name, under a key
that is not blank, units of the limit on all feeds and of the one of the channel's source. -/
structure Requested (config : Config) (maxFeeds : Nat) (env : Environment) (place : String → Nat)
    (name : String) (query : Option String) (token : Nat) (r : Request) : Prop where
  channel : ∃ c, (∀ d, d ∈ config.channels ∧ d.name = name ↔ d = c) ∧
    c.feed query env = .ok r.feed ∧
    (∀ source, c.source = some source → ∃ s ∈ config.sources, s.name = source) ∧
    r = Gateway.requestOf maxFeeds env place c query token
  key : r.key.isBlank = false

theorem requestFor_eq_ok (valid : config.validate = .ok ()) {token : Nat}
    (asked : (Gateway.new config maxFeeds env).requestFor name query token = .ok r) :
    Requested config maxFeeds env (Gateway.place config maxFeeds) name query token r := by
  rcases Gateway.requestFor_of_valid valid maxFeeds env name query token with
    ⟨c, member, named, same⟩ | ⟨-, same⟩
  · cases same.symm.trans asked
    have usable := ((Config.channels_of_valid valid).2 c member).2
    refine ⟨⟨c, fun d => ⟨?_, ?_⟩, usable.feed query env, fun source given => ?_, rfl⟩,
      usable.key query⟩
    · rintro ⟨other, same⟩
      exact List.inj_on_of_nodup_map (Config.channels_of_valid valid).1 other member
        (same.trans named.symm)
    · rintro rfl
      exact ⟨member, named⟩
    · exact List.mem_map.mp (usable.source source given)
  · cases same.symm.trans asked

theorem requestFor_eq_error_iff (valid : config.validate = .ok ()) {token : Nat} {e : ChannelError} :
    (Gateway.new config maxFeeds env).requestFor name query token = .error e ↔
      (∀ c ∈ config.channels, c.name ≠ name) ∧ e = .unknownChannel name := by
  rcases Gateway.requestFor_of_valid valid maxFeeds env name query token with
    ⟨c, member, named, same⟩ | ⟨none, same⟩
  · rw [same]
    exact ⟨nofun, fun missing => absurd named (missing.1 c member)⟩
  · rw [same, Except.error.injEq, eq_comm]
    exact ⟨fun same => ⟨none, same⟩, fun same => same.2⟩

/-- With a valid configuration a request for a stream fails only if no channel has the name, and
nobody who asks for one is told of a fault of the gateway or of the feed, whatever has happened
before. -/
theorem streams_of_valid (valid : config.validate = .ok ()) (maxFeeds : Nat)
    (env : Environment) :
    ∃ place : String → Nat, Gateway.Placed config maxFeeds place ∧
      (∀ name query token e,
        (Gateway.new config maxFeeds env).requestFor name query token = .error e ↔
          (∀ c ∈ config.channels, c.name ≠ name) ∧ e = .unknownChannel name) ∧
      (∀ name query token r, (Gateway.new config maxFeeds env).requestFor name query token = .ok r →
        Requested config maxFeeds env place name query token r) ∧
      ∀ events (request : WebRequest) part reply, Route.ofPath? request.path = some (.stream part) →
        (answer (Gateway.new config maxFeeds env) ((Gateway.brokerOf config maxFeeds).after events)
          request).2 = some reply →
        reply.status ∈ [200, 400, 404, 405, 429, 503] := by
  refine ⟨Gateway.place config maxFeeds, Gateway.placed valid maxFeeds,
    fun name query token e => requestFor_eq_error_iff valid,
    fun name query token r asked => requestFor_eq_ok valid asked, ?_⟩
  intro events request part reply path replied
  have initial := Broker.Sound.initial config.broker.brokerConfig (Gateway.limitsOf config maxFeeds)
  exact status_answer valid (initial.after events)
    ((Broker.Minded.initial _ _).after initial events) path replied

/-- The program is the address itself, and the second channel has no limit of its own. -/
theorem streams_of_two_channels :
    let config : Config :=
      { sources := [⟨"provider", 2⟩]
        channels :=
          [{ name := "a", url := "http://up/a", source := some "provider",
             command := some ["\x7burl\x7d", "-v"] },
            { name := "b", url := "http://up/b" }] }
    config.validate = .ok () ∧ ∃ place : String → Nat, Gateway.Placed config 4 place ∧
      (∀ query token r, (Gateway.new config 4 .offline).requestFor "a" query token = .ok r →
        Requested config 4 .offline place "a" query token r) ∧
      ∀ query token, (Gateway.new config 4 .offline).requestFor "c" query token =
        .error (.unknownChannel "c") := by
  intro config
  have valid : config.validate = .ok () := by decide +kernel
  obtain ⟨place, placed, fails, asks, -⟩ := streams_of_valid valid 4 .offline
  refine ⟨valid, place, placed, asks "a", fun query token => ?_⟩
  exact (fails "c" query token _).mpr ⟨by decide, rfl⟩

end Fanout.Web
