import Fanout.Broker.Run
import Fanout.Config.Basic

namespace Fanout

inductive ChannelError where
  | unknownChannel (name : String)
  | emptyCommand (name : String)
deriving DecidableEq, Inhabited

namespace ChannelError

def message : ChannelError → String
  | .unknownChannel name => "Unknown channel: " ++ name
  | .emptyCommand name => "Channel " ++ name ++ " has an empty command"

end ChannelError

namespace Channel

def streamKey (c : Channel) (query : Option String) : StreamKey := .ofQuery c.url query

/-- The feed of a channel: its command with the address filled in, or else the address fetched. -/
def feed (c : Channel) (query : Option String) (env : Environment) : Except ChannelError Feed :=
  let address := feedAddress c.url query
  match c.command with
  | none => .ok (.fetch env { address := address, userAgent := c.userAgent })
  | some template =>
    match Command.ofTemplate template address with
    | some command => .ok (.command env command)
    | none => .error (.emptyCommand c.name)

end Channel

structure Gateway where
  channels : List Channel
  globalLimit : Option Nat
  sourceLimits : List (String × Nat)
  env : Environment
deriving Inhabited

namespace Gateway

def lastByName : List Source → List Source
  | [] => []
  | s :: rest => if rest.any (·.name == s.name) then lastByName rest else s :: lastByName rest

def sourcesInOrder (c : Config) : List Source := (lastByName c.sources).mergeSort (·.name ≤ ·.name)

/-- The limits: on all feeds, unless their number is 0, and on each source, by name. -/
def limitsOf (c : Config) (maxFeeds : Nat) : Limits :=
  (if maxFeeds = 0 then [] else [Limit.new "global" maxFeeds]) ++
    (sourcesInOrder c).map fun s => Limit.new s.name s.maxStreams

def new (c : Config) (maxFeeds : Nat) (env : Environment) : Gateway :=
  { channels := c.channels
    globalLimit := if maxFeeds = 0 then none else some 0
    sourceLimits :=
      ((sourcesInOrder c).map (·.name)).zipIdx (if maxFeeds = 0 then 0 else 1)
    env := env }

def brokerOf (c : Config) (maxFeeds : Nat) : Broker :=
  Broker.new c.broker.brokerConfig (limitsOf c maxFeeds)

def channel? (g : Gateway) (name : String) : Option Channel :=
  g.channels.reverse.find? (·.name == name)

/-- The limits that a feed of the channel needs units of, the one on all feeds first. -/
def limitsFor (g : Gateway) (c : Channel) : List Nat :=
  g.globalLimit.toList ++ (c.source.bind fun source => List.lookup source g.sourceLimits).toList

def requestFor (g : Gateway) (name : String) (query : Option String) (token : Nat) :
    Except ChannelError Request :=
  match g.channel? name with
  | none => .error (.unknownChannel name)
  | some c => do
    let feed ← c.feed query g.env
    return { key := c.streamKey query, feed := feed, limits := g.limitsFor c, token := token }

def viewersOf (c : Channel) (relays : List RelayStats) : Nat :=
  sum ((relays.filter (·.key.belongsTo c.url)).map (·.clients))

def streamsOf (c : Channel) (keys : List StreamKey) : List StreamKey :=
  keys.filter (·.belongsTo c.url)

end Gateway

end Fanout
