import Fanout.Feed.Turn

namespace Fanout

structure HttpStatus where
  code : Nat
  text : String
deriving DecidableEq, Inhabited

def HttpStatus.isSuccess (s : HttpStatus) : Bool := 200 ≤ s.code && s.code < 300

inductive Arrival where
  | chunk (data : Bytes)
  | pause (ms : Nat)
  | failure (text : String)
deriving DecidableEq, Inhabited

structure Response where
  status : HttpStatus
  body : List Arrival
deriving DecidableEq, Inhabited

structure HttpExchange where
  delay : Nat := 0
  answer : Except String Response
deriving Inhabited

inductive FetchRun where
  | unsent
  | sent (answer : Except String Response) (due : Nat)
  | receiving (body : List Arrival) (total : Nat) (due : Nat)
  | ended (result : FeedResult)
deriving Inhabited

def FetchRun.result? : FetchRun → Option FeedResult
  | .ended result => some result
  | _ => none

structure Fetch where
  address : String
  userAgent : Option String := none
  run : FetchRun := .unsent
deriving Inhabited

namespace Fetch

def label (f : Fetch) : String := "http " ++ f.address

def fault (f : Fetch) (text : String) : FeedResult := .error (.failed (f.address ++ ": " ++ text))

def receive (f : Fetch) (now : Nat) : List Arrival → Nat → List Bytes → FetchRun × List Bytes
  | [], total, written => (.ended (.ok total), written)
  | .chunk data :: rest, total, written =>
    f.receive now rest (total + data.length) (if data.isEmpty then written else written ++ [data])
  | .pause ms :: rest, total, written => (.receiving rest total (now + ms), written)
  | .failure text :: _, _, written => (.ended (f.fault text), written)

def await (f : Fetch) (now : Nat) (answer : Except String Response) (due : Nat) :
    FetchRun × List Bytes :=
  if now < due then (.sent answer due, [])
  else
    match answer with
    | .error text => (.ended (f.fault text), [])
    | .ok response =>
      if response.status.isSuccess then f.receive now response.body 0 []
      else (.ended (.error (.failed (f.address ++ " returned " ++ response.status.text))), [])

def advance (send : String → Option String → HttpExchange) (f : Fetch) (now : Nat) :
    FetchRun × List Bytes :=
  match f.run with
  | .unsent =>
    let exchange := send f.address f.userAgent
    f.await now exchange.answer (now + exchange.delay)
  | .sent answer due => f.await now answer due
  | .receiving body total due =>
    if now < due then (f.run, []) else f.receive now body total []
  | .ended result => (.ended result, [])

/-- The cancellation is looked at before the request is sent, and then before all that comes of
it. -/
def resume (send : String → Option String → HttpExchange) (f : Fetch) (canceled : Bool) (now : Nat) :
    Fetch × Turn :=
  let (run, writes) :=
    if canceled && f.run.result?.isNone then (.ended (.error .canceled), []) else f.advance send now
  ({ f with run := run }, { writes := writes, ending := run.result?.map .returned })

def ready (f : Fetch) (canceled : Bool) (now : Nat) : Bool :=
  match f.run with
  | .sent _ due | .receiving _ _ due => canceled || due ≤ now
  | .unsent | .ended _ => true

def alarm (f : Fetch) : Option Nat :=
  match f.run with
  | .sent _ due | .receiving _ _ due => some due
  | .unsent | .ended _ => none

end Fetch

end Fanout
