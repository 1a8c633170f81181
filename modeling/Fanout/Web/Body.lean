import Fanout.Broker.Run
import Fanout.Relay.Reader

namespace Fanout.Web

def bodyView (opening : Nat) : SinkView Broker :=
  { settle := Broker.machine.settle
    get := fun b => (b.readerPlace opening).bind b.registry.sink?
    update := fun f b => (b.readerPlace opening).elim b fun place => b.updateSink place f }

def readBody (b : Broker) (opening : Nat) : Broker × Bytes × Bool :=
  let (b, data, ended) := (bodyView opening).read none b
  (if ended then b.abandonOpen opening else b, data, ended)

def bodyReadable (opening : Nat) (b : Broker) : Bool :=
  ((bodyView opening).get b).all fun k => !k.pipe.held.isEmpty || k.pipe.atEnd

def readBodyFor (opening : Nat) : Nat → Bytes → Broker → Broker × Bytes × Bool
  | 0, got, b => (b, got, false)
  | fuel + 1, got, b =>
    let (b, data, ended) := readBody b opening
    if ended then (b, got ++ data, true)
    else
      let (b, readable) := Broker.machine.await (bodyReadable opening) b
      if readable then readBodyFor opening fuel (got ++ data) b else (b, got ++ data, false)

def readBodyToEnd (b : Broker) (opening : Nat) : Broker × Bytes × Bool :=
  readBodyFor opening 1000000 [] b

end Fanout.Web
