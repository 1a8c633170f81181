import Fanout.Web.Gateway
import Fanout.Web.Json
import Fanout.Web.Route

namespace Fanout.Web

inductive Body where
  | text (s : String)
  | json (v : Json)
  | stream (opening : Nat)
deriving Inhabited

structure Reply where
  status : Nat := 200
  headers : List (String × String) := []
  body : Body := .text ""
deriving Inhabited

namespace Reply

def plain (status : Nat) (s : String) (headers : List (String × String)) : Reply :=
  { status := status
    headers := ("content-type", "text/plain; charset=utf-8") :: headers
    body := .text s }

def json (status : Nat) (success : Bool) (fields : List (String × Json)) : Reply :=
  { status := status
    headers := [("content-type", "application/json")]
    body := .json (.object (("success", .flag success) :: fields)) }

def stream (opening : Nat) : Reply :=
  { headers := [("content-type", "video/mp2t"), ("cache-control", "no-cache, no-store")]
    body := .stream opening }

def ofChannelError (e : ChannelError) : Reply :=
  match e with
  | .unknownChannel _ => plain 404 e.message []
  | .emptyCommand _ => plain 500 e.message []

def ofOpenError (e : OpenError) : Reply :=
  match e with
  | .capacityExceeded =>
    plain 429 "All upstream slots are busy, try again later" [("retry-after", "5")]
  | .closed => plain 503 "Shutting down" []
  | .invalidKey _ => plain 502 e.message []

def badName : Reply := plain 400 "Invalid URL: Invalid UTF-8 in `channel`" []

def forAnyOrigin (r : Reply) : Reply :=
  { r with headers := r.headers ++ [("access-control-allow-origin", "*")] }

def allowing (route : Route) (r : Reply) : Reply :=
  { r with headers := r.headers ++ [("allow", ",".intercalate route.methods)] }

end Reply

/-- Opens a stream for a viewer without a cancellation token of its own. There is no answer if
that takes too long. -/
def openStream (g : Gateway) (b : Broker) (name : String) (query : Option String) :
    Broker × Option Reply :=
  match g.requestFor name query b.tokens.length with
  | .error e => (b, some (.ofChannelError e))
  | .ok request =>
    let (b, i) := { b with tokens := b.tokens ++ [false] }.requestOpen request
    let (b, _) := Broker.machine.await (!·.openPending i) b
    match b.openings[i]?.map Opening.state with
    | some (.opened _ _) => (b, some (.stream i))
    | some (.refused e) => (b, some (.ofOpenError e))
    | _ => (b.abandonOpen i, none)

def stopAll : List StreamKey → Broker → Nat → Broker × Option Nat
  | [], b, count => (b, some count)
  | key :: rest, b, count =>
    let (b, i) := b.requestStop key
    let (b, ended) := Broker.machine.await (·.taskEnded (.stop i)) b
    if ended then stopAll rest b (if b.stopFound i then count + 1 else count)
    else (b.abandon (.stop i), none)

def stopChannel (g : Gateway) (b : Broker) (name : String) : Broker × Option Reply :=
  match g.channel? name with
  | none =>
    (b, some (.json 404 false [("error", .text (ChannelError.unknownChannel name).message)]))
  | some c =>
    let (b, stopped) := stopAll (Gateway.streamsOf c b.registry.keys) b 0
    (b, stopped.map fun n => .json 200 true [("stopped", .number n)])

def listing (relays : List RelayStats) (c : Channel) : Json :=
  .object [("name", .text c.name), ("url", .text c.url), ("source", .ofText? c.source),
    ("kind", .text (if c.command.isSome then "command" else "http")),
    ("viewers", .number (Gateway.viewersOf c relays))]

def answerOn (g : Gateway) (b : Broker) (query : Option String) :
    Route → Broker × Option Reply
  | .stream part =>
    match decodePart? part with
    | some name => openStream g b name query
    | none => (b, some .badName)
  | .stop part =>
    match decodePart? part with
    | some name => stopChannel g b name
    | none => (b, some .badName)
  | .relays => (b, some (.json 200 true [("relays", .list (b.registry.stats.map .ofRelay))]))
  | .stats =>
    (b, some (.json 200 true
      [("stats", .ofBroker b.stats), ("limits", .list (b.limits.map .ofLimit))]))
  | .channels =>
    (b, some (.json 200 true
      [("channels", .list (g.channels.map (listing b.registry.stats)))]))
  | .sweep => (b.sweep.1, some (.json 200 true [("evicted", .number b.sweep.2)]))

def dropBody (b : Broker) (r : Reply) : Broker × Reply :=
  match r.body with
  | .stream i => (b.abandonOpen i, { r with body := .text "" })
  | _ => (b, { r with body := .text "" })

def answer (g : Gateway) (b : Broker) (r : WebRequest) : Broker × Option Reply :=
  match Route.ofPath? r.path with
  | none => (b, some (Reply.forAnyOrigin { status := if r.method = "OPTIONS" then 200 else 404 }))
  | some route =>
    if r.method = "OPTIONS" then (b, some (Reply.forAnyOrigin (Reply.allowing route {})))
    else if r.method ∉ route.methods then
      (b, some (Reply.forAnyOrigin (Reply.allowing route { status := 405 })))
    else
      match answerOn g b r.query route with
      | (b, none) => (b, none)
      | (b, some reply) =>
        let (b, reply) := if r.method = "HEAD" then dropBody b reply else (b, reply)
        (b, some reply.forAnyOrigin)

end Fanout.Web
