import OrderDesk.Action.Payload
import OrderDesk.Desk.Create
import OrderDesk.Desk.Listing
import OrderDesk.Json.Shown

-- Actions for callers that want a plain answer: whether it went well, what came of it, and otherwise why not.
-- Refusals and mistakes are told; any other fault is logged, and told only in general words. What a move says
-- of the order it is about is put together outside of all this: an id without a text ends the action.
namespace OrderDesk

structure ActionResult where
  success : Bool
  data : Json
  error : Option String

namespace ActionResult

def done (data : Json) : ActionResult := ⟨true,data,none⟩

def refused (error : String) : ActionResult := ⟨false,.null,some error⟩

def toJson (r : ActionResult) : Json :=
  .obj ([("success",.bool r.success)] ++ (if r.data.isNull then [] else [("data",r.data)]) ++
    (r.error.map fun error => ("error",Json.str error)).toList)

end ActionResult

-- What a caller may be told of a fault.
def Fault.told? : Fault → Option String
  | .invalid field message => some s!"{field}: {message}"
  | .malformed message | .badValue message | .raised "ValueError" message => some message
  | _ => none

namespace Action

def logger : String := "order_engine.actions"

def failed (d : Desk) (words : String) (fault : Fault) : Desk :=
  d.log ((Entry.plain .error logger words).because (Desk.failureText fault))

-- The result of a call, or the general words for its fault.
def safely (words : String) (d : Desk) : Except Fault ActionResult → Desk × ActionResult
  | .ok result => (d,result)
  | .error fault =>
    match fault.told? with
    | some "" => (d,.refused words)
    | some message => (d,.refused message)
    | none => (failed d words fault,.refused words)

def answered (ran : Desk × ActionResult) : Desk × Except Fault ActionResult := (ran.1,.ok ran.2)

def given (name : String) (args : Fields) : Json := (Fields.get? name args).getD .null

-- Several values may be given as one text with commas. Nothing given is no wish.
def wishes : Json → Except Fault (List Json)
  | .null => .ok []
  | .str s => .ok (((Text.split ',' s).map Text.strip).filter (· ≠ "") |>.map .str)
  | .arr items => .ok items
  | .obj fields => .ok (fields.map fun field => .str field.1)
  | _ => .error .wrongKind

def summaryKeys : List String := ["id","type","status","createdAt","updatedAt","triggeredAt","completedAt"]

def summaryOf (o : Order) : Json := .obj (o.toFields.filter fun field => summaryKeys.contains field.1)

def creationData (c : Creation) : Json :=
  .obj [("orderId",c.order.id),("flowId",.str c.flow.id),("type",.str c.order.kind.name),
    ("status",.str c.order.status.name),("createdAt",.str c.order.createdAt.text)]

def runCreate (d : Desk) (args : Fields) : Desk × ActionResult :=
  let kind := given "type" args
  let params := given "params" args
  if !kind.truthy then (d,.refused "Order type is required")
  else if params.isNull then (d,.refused "Order params are required")
  else
    let (d,answer) := d.create kind params
    safely "Failed to create order" d (answer.map fun c => .done (creationData c))

def filterOf (args : Fields) : Except Fault Filter := do
  let statuses ← wishes (given "status" args)
  let kinds ← wishes (given "type" args)
  let statuses ← statuses.mapM Status.stored
  let kinds ← kinds.mapM Kind.stored
  pure ⟨statuses,kinds,← wishes (given "token" args)⟩

def listed (d : Desk) (args : Fields) : Except Fault (List Order) := do
  let orders ← d.listing (← filterOf args)
  let page ← Page.ofJson (given "limit" args) ((Fields.get? "offset" args).getD (.int 0))
  pure (page.cut orders)

def listingData (orders : List Order) : Json :=
  .obj [("orders",.arr (orders.map summaryOf)),("total",.int orders.length)]

def runList (d : Desk) (args : Fields) : Desk × ActionResult :=
  safely "Failed to list orders" d ((listed d args).map fun orders => .done (listingData orders))

def runGet (d : Desk) (args : Fields) : Desk × ActionResult :=
  let id := given "order_id" args
  if !id.truthy then (d,.refused "Order ID is required")
  else safely "Failed to get order" d ((d.get id).bind fun
    | none => id.shown.map fun text => .refused s!"Order not found: {text}"
    | some o => .ok (.done o.toJson))

-- Whether a move was made. A fault is only logged.
def attempted (verb : String) : Desk × Except Fault Bool → Desk × Bool
  | (d,.ok moved) => (d,moved)
  | (d,.error fault) => (failed d s!"Failed to {verb} order" fault,false)

def moveData (id : Json) (found : Option Order) : Json :=
  .obj [("orderId",id),("status",.optStr (found.map fun o => o.status.name))]

def runMove (d : Desk) (verb : String) (operation : Desk → Json → Desk × Except Fault Bool) (args : Fields) :
    Desk × Except Fault ActionResult :=
  let id := given "order_id" args
  if !id.truthy then (d,.ok (.refused "Order ID is required"))
  else
    let (d,moved) := attempted verb (operation d id)
    match id.shown with
    | .error fault => (d,.error fault)
    | .ok text =>
      if moved then
        answered (safely s!"Failed to read order {text} after {verb}" d ((d.get id).map fun found => .done (moveData id found)))
      else (d,.ok (.refused s!"Failed to {verb} order: {text}"))

def runStats (d : Desk) : Desk × ActionResult :=
  safely "Failed to get stats" d (d.stats.map fun s => .done s.toJson)

def run (d : Desk) (args : Fields) : Action → Desk × Except Fault ActionResult
  | create => answered (runCreate d args)
  | list => answered (runList d args)
  | get => answered (runGet d args)
  | activate => runMove d "activate" Desk.activate args
  | pause => runMove d "pause" Desk.pause args
  | resume => runMove d "resume" Desk.resume args
  | cancel => runMove d "cancel" Desk.cancel args
  | stats => answered (runStats d)

def execute (d : Desk) (name payload : Json) : Desk × Except Fault ActionResult :=
  if !name.isKey then (d,.error .wrongKind)
  else match ofName? name with
    | none => (d,name.shown.map fun text => .refused s!"Unknown action: {text}")
    | some a =>
      match Payload.bind a payload with
      | .error (.raised "TypeError" message) => (d,.ok (.refused s!"Invalid input for {a.name}: {message}"))
      | .error fault => (d,.error fault)
      | .ok args => a.run d args

end Action
end OrderDesk
