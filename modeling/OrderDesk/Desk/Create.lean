import OrderDesk.Desk.Lifecycle

-- New orders. Input is checked before anything happens; then the order gets an id, its state and its flow, the
-- flow is registered, and the order is stored. Notices come last.
namespace OrderDesk

structure Creation where
  order : Order
  flow : Flow

namespace Desk

def registered (d : Desk) (o : Order) (f : Flow) : Desk × Order × Bool :=
  let (d,reply) := d.register o.id f
  match reply with
  | .failed message _ =>
    (d.log ((orderEntry .error o.id s!"Failed to register flow {f.id} for order {o.id.display}").because message),
      {o with error := .str s!"flow registration failed: {message}",updatedAt := d.clock},false)
  | _ => (d,o,true)

def announceCreation (d : Desk) (o : Order) : Desk :=
  let d := d.log (orderEntry .info o.id s!"Created {o.kind.name} order {o.id.display} ({o.status.name})")
  let d := d.tell o (.ofStatus o.kind .created none none)
  if o.status = .active then d.tell o (.ofStatus o.kind .active (some .created) none) else d

def flowEntry (o : Order) (f : Flow) : Entry :=
  (Entry.plain .debug flowLogger s!"Generated flow {f.id} with {f.nodes.length} nodes for order {o.id.display}").aboutOrder o.id

def accept (d : Desk) (o : Order) (f : Flow) : Desk × Except Fault Creation :=
  let (d,o,running) := d.registered o f
  let o := if running && d.settings.autoActivate then {o with status := .active} else o
  match d.storage.set o with
  | (storage,.error fault) => ({d with storage},.error fault)
  | (storage,.ok ()) => (({d with storage}).announceCreation o,.ok ⟨o,f⟩)

def create (d : Desk) (kind params : Json) : Desk × Except Fault Creation :=
  match Params.parse kind params with
  | .error fault => (d,.error fault)
  | .ok p =>
    let (id,d) := d.nextId
    let o := Order.fresh id p d.clock
    match o.flow d.settings.flow d.clock with
    | .error fault => (d,.error fault)
    | .ok f => (d.log (flowEntry o f)).accept {o with flowId := .str f.id} f

end Desk
end OrderDesk
