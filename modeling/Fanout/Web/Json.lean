import Fanout.Broker.Basic
import Fanout.Config.Basic

namespace Fanout.Web

inductive Json where
  | null
  | flag (b : Bool)
  | number (n : Nat)
  | text (s : String)
  | list (items : List Json)
  | object (fields : List (String × Json))
deriving Inhabited

namespace Json

def ofText? (s : Option String) : Json := s.elim .null .text

def ofTexts (ss : List String) : Json := .list (ss.map .text)

def ofNumber? (n : Option Nat) : Json := n.elim .null .number

def ofLimit (l : Limit) : Json :=
  .object [("name", .text l.name), ("capacity", .number l.capacity),
    ("available", .number l.available), ("acquired", .number l.acquired),
    ("released", .number l.released)]

def ofRelay (s : RelayStats) : Json :=
  .object [("key", .text s.key.text), ("clients", .number s.clients),
    ("bytes_written", .number s.bytesWritten), ("buffered_bytes", .number s.bufferedBytes),
    ("dropped_buffers", .number s.droppedBuffers), ("closed", .flag s.closed)]

def ofBroker (s : BrokerStats) : Json :=
  .object [("active_relays", .number s.activeRelays), ("active_viewers", .number s.activeViewers),
    ("opens", .number s.opens), ("pulls_started", .number s.pullsStarted),
    ("pulls_failed", .number s.pullsFailed),
    ("capacity_rejections", .number s.capacityRejections)]

def ofChannel (c : Channel) : Json :=
  .object [("name", .text c.name), ("url", .text c.url), ("source", ofText? c.source),
    ("command", c.command.elim .null ofTexts), ("user_agent", ofText? c.userAgent)]

def ofSource (s : Source) : Json :=
  .object [("name", .text s.name), ("max_streams", .number s.maxStreams)]

def ofSettings (s : BrokerSettings) : Json :=
  .object [("max_upstreams", ofNumber? s.maxFeeds),
    ("acquire_timeout_secs", ofNumber? s.acquireSeconds),
    ("replay_buffer_mib", ofNumber? s.replayMebibytes),
    ("client_queue_depth", ofNumber? s.queueDepth),
    ("pipe_capacity_kib", ofNumber? s.pipeKibibytes),
    ("sweep_interval_secs", ofNumber? s.sweepSeconds)]

def ofBrokerConfig (c : BrokerConfig) : Json :=
  .object [("replay_capacity", .number c.relay.replayCapacity),
    ("queue_depth", .number c.relay.queueDepth), ("close_grace_ms", .number c.relay.closeGrace),
    ("acquire_timeout_secs", .number (c.acquireTimeout / 1000)),
    ("pipe_capacity", .number c.pipeCapacity)]

def ofConfig (c : Config) : Json :=
  .object [("server", .object [("listen", ofText? c.listen)]),
    ("broker", ofSettings c.broker),
    ("logging", .object [("log_dir", ofText? c.log.directory),
      ("retention_days", ofNumber? c.log.retentionDays), ("level", ofText? c.log.level)]),
    ("sources", .list (c.sources.map ofSource)),
    ("channels", .list (c.channels.map ofChannel)),
    ("derived", .object [("broker", ofBrokerConfig c.broker.brokerConfig),
      ("sweep_interval_secs", .number c.broker.sweepInterval)])]

end Json

end Fanout.Web
