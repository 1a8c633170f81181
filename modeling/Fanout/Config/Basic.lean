import Fanout.Broker.Basic
import Fanout.Net.Endpoint

namespace Fanout

structure Source where
  name : String
  maxStreams : Nat
deriving DecidableEq, Inhabited

structure Channel where
  name : String
  url : String
  source : Option String := none
  /-- The template of the command that makes the stream. Without one the address is fetched. -/
  command : Option (List String) := none
  userAgent : Option String := none
deriving DecidableEq, Inhabited

structure BrokerSettings where
  /-- How many feeds may run at the same time; 0 stands for any number. -/
  maxFeeds : Option Nat := none
  acquireSeconds : Option Nat := none
  replayMebibytes : Option Nat := none
  queueDepth : Option Nat := none
  pipeKibibytes : Option Nat := none
  sweepSeconds : Option Nat := none
deriving DecidableEq, Inhabited

structure LogSettings where
  directory : Option String := none
  retentionDays : Option Nat := none
  level : Option String := none
deriving DecidableEq, Inhabited

structure Config where
  listen : Option String := none
  broker : BrokerSettings := {}
  log : LogSettings := {}
  sources : List Source := []
  channels : List Channel := []
deriving DecidableEq, Inhabited

inductive ConfigError where
  | unreadable (path reason : String)
  | malformed
  | invalidListen (text : String)
  | duplicateChannel (name : String)
  | duplicateSource (name : String)
  | emptyUrl (channel : String)
  | emptyCommand (channel : String)
  | unknownSource (channel source : String)
  | zeroCapacity (source : String)
  | invalidSize (field : String) (value : Nat)
deriving DecidableEq, Inhabited

namespace ConfigError

def message : ConfigError → String
  | .unreadable path reason => "Failed to read " ++ path ++ ": " ++ reason
  | .malformed => "Failed to parse config:"
  | .invalidListen text => "Invalid listen address " ++ Text.quoted text
  | .duplicateChannel name => "Duplicate channel name: " ++ name
  | .duplicateSource name => "Duplicate source name: " ++ name
  | .emptyUrl channel => "Channel " ++ channel ++ " has an empty url"
  | .emptyCommand channel => "Channel " ++ channel ++ " has an empty command"
  | .unknownSource channel source =>
    "Channel " ++ channel ++ " references unknown source " ++ source
  | .zeroCapacity source => "Source " ++ source ++ " must allow at least one stream"
  | .invalidSize field value => "Invalid value for broker." ++ field ++ ": " ++ toString value

end ConfigError

namespace BrokerSettings

def sizeBound : Nat := Nat.pow 2 64

def replayBytes (s : BrokerSettings) : Except ConfigError (Option Nat) :=
  match s.replayMebibytes with
  | none => .ok none
  | some n =>
    if n * Nat.pow 2 20 < sizeBound then .ok (some (n * Nat.pow 2 20))
    else .error (.invalidSize "replay_buffer_mib" n)

def pipeBytes (s : BrokerSettings) : Except ConfigError (Option Nat) :=
  match s.pipeKibibytes with
  | none => .ok none
  | some n =>
    if 0 < n ∧ n * 1024 < sizeBound then .ok (some (n * 1024))
    else .error (.invalidSize "pipe_capacity_kib" n)

def valid? (size : Except ConfigError (Option Nat)) : Option Nat := size.toOption.join

/-- What is not given, and any size that is not valid, is as in the broker's own defaults. -/
def brokerConfig (s : BrokerSettings) : BrokerConfig :=
  let default : BrokerConfig := {}
  { relay :=
      { default.relay with
        replayCapacity := (valid? s.replayBytes).getD default.relay.replayCapacity
        queueDepth := s.queueDepth.getD default.relay.queueDepth }
    acquireTimeout := (s.acquireSeconds.map (· * 1000)).getD default.acquireTimeout
    pipeCapacity := (valid? s.pipeBytes).getD default.pipeCapacity }

def sweepInterval (s : BrokerSettings) : Nat := max (s.sweepSeconds.getD 60) 1

end BrokerSettings

namespace Config

def defaultFile : String := "tvrelay.toml"

def defaultListen : String := "0.0.0.0:8089"

def checkListen (c : Config) : Except ConfigError Unit :=
  match c.listen with
  | none => .ok ()
  | some text =>
    if (Endpoint.ofText? text).isSome then .ok () else .error (.invalidListen text)

def checkSources : List String → List Source → Except ConfigError Unit
  | _, [] => .ok ()
  | names, s :: rest =>
    if s.name ∈ names then .error (.duplicateSource s.name)
    else if s.maxStreams = 0 then .error (.zeroCapacity s.name)
    else checkSources (s.name :: names) rest

def hasProgram (command : List String) : Bool :=
  match command with
  | [] => false
  | program :: _ => !Text.isBlankText program

def checkChannel (sources : List String) (c : Channel) : Except ConfigError Unit := do
  if Text.isBlankText c.url then throw (.emptyUrl c.name)
  if c.command.any (!hasProgram ·) then throw (.emptyCommand c.name)
  match c.source with
  | none => pure ()
  | some source => if source ∉ sources then throw (.unknownSource c.name source)

def checkChannels (sources : List String) : List String → List Channel → Except ConfigError Unit
  | _, [] => .ok ()
  | names, c :: rest =>
    if c.name ∈ names then .error (.duplicateChannel c.name)
    else do
      checkChannel sources c
      checkChannels sources (c.name :: names) rest

/-- The first fault of a configuration. -/
def validate (c : Config) : Except ConfigError Unit := do
  c.checkListen
  discard c.broker.replayBytes
  discard c.broker.pipeBytes
  checkSources [] c.sources
  checkChannels (c.sources.map (·.name)) [] c.channels

end Config

end Fanout
