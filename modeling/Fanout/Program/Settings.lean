import Fanout.CommandLine
import Fanout.Config.Basic
import Fanout.Log.Filter

namespace Fanout

structure Settings where
  listen : Endpoint
  maxFeeds : Nat
  logDirectory : String
  retentionDays : Nat
  filter : String
  config : Config
deriving Inhabited

namespace Settings

def defaultEndpoint : Endpoint := ⟨.four [0, 0, 0, 0], 8089⟩

/-- What the command line gives goes before the configuration. -/
def new (o : Options) (c : Config) : Settings :=
  { listen := (o.listen <|> c.listen.bind Endpoint.ofText?).getD defaultEndpoint
    maxFeeds := (o.maxFeeds <|> c.broker.maxFeeds).getD 0
    logDirectory := (o.logDirectory <|> c.log.directory).getD "logs"
    retentionDays := (o.retentionDays <|> c.log.retentionDays).getD 7
    filter := LogFilter.directive o.verbose c.log.level
    config := c }

def main (text : String) : LogLine := ⟨.info, "tvrelay_proxy", text⟩

def secondsText (ms : Nat) : String := if ms = 0 then "0ns" else toString (ms / 1000) ++ "s"

def removedLines (s : Settings) (count : Nat) : List LogLine :=
  if count = 0 then []
  else
    [⟨.info, "tvrelay_proxy::logging",
      "Removed " ++ toString count ++ " old log files from " ++ s.logDirectory⟩]

def startLines (s : Settings) : List LogLine :=
  let broker := s.config.broker.brokerConfig
  [main "tvrelay-proxy starting...",
    main ("  Listen address: " ++ s.listen.toText),
    main ("  Channels: " ++ toString s.config.channels.length),
    main ("  Max upstreams: " ++ if s.maxFeeds = 0 then "unlimited" else toString s.maxFeeds),
    main ("  Replay buffer: " ++ toString (broker.relay.replayCapacity / 1024) ++
      " KiB, queue depth: " ++ toString broker.relay.queueDepth ++
      ", acquire timeout: " ++ secondsText broker.acquireTimeout)] ++
  s.config.sources.map fun source =>
    main ("  Source " ++ source.name ++ ": max " ++ toString source.maxStreams ++ " streams")

def listeningLine (s : Settings) : LogLine :=
  ⟨.info, "tvrelay_proxy::web", "Listening on http://" ++ s.listen.toText⟩

def failureLine (reason : String) : LogLine :=
  ⟨.error, "tvrelay_proxy", "Web server error: " ++ reason⟩

def interruptLine : LogLine := main "Received Ctrl-C, shutting down"

def stopLines : List LogLine :=
  [⟨.info, "tvrelay::broker", "[StreamBroker] Shutting down"⟩,
    ⟨.info, "tvrelay::broker", "[StreamBroker] Shutdown complete"⟩,
    main "tvrelay-proxy stopped"]

end Settings

/-- The filter of a run: that of the surroundings if it can be read, or else that of the
settings; and the parts of the latter that are passed over. -/
def LogFilter.choose (surrounding : Option String) (s : Settings) :
    LogFilter × List (String × LogRuleError) :=
  match surrounding.bind LogFilter.ofText? with
  | some f => (f, [])
  | none => (LogFilter.ofText s.filter, LogFilter.ignored s.filter)

end Fanout
