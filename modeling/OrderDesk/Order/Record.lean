import OrderDesk.Calendar.Iso
import OrderDesk.Order.Decode
import OrderDesk.Order.Status

-- Orders as they are stored. Identifiers, error texts and counters keep the JSON value they were read with;
-- orders made here have text identifiers and whole counters.
namespace OrderDesk

-- The highest price seen, null before the first.
structure Trailing where
  mark : Json
deriving BEq

-- What has been executed of a schedule; `remaining` is null when nothing bounds it.
structure Schedule where
  remaining : Json
  done : Json
  nextDue : Option Timestamp
  lastExecuted : Option Timestamp
deriving BEq

structure Order where
  id : Json
  params : Params
  status : Status
  flowId : Json
  createdAt : Timestamp
  updatedAt : Timestamp
  triggeredAt : Option Timestamp
  completedAt : Option Timestamp
  error : Json
  trailing : Option Trailing
  schedule : Option Schedule
deriving BEq

-- The texts of moments, null where there is none.
def optTimestamp : Option Timestamp → Json := Json.ofOption fun t => .str t.text

namespace Trailing

def toJson (t : Trailing) : Json := .obj [("highWaterMark",t.mark)]

def ofJson : Json → Except Fault Trailing
  | .obj fields => .ok ⟨(Fields.get? "highWaterMark" fields).getD .null⟩
  | _ => .error .noSuchPart

end Trailing

def readTimestamp (v : Json) : Except Fault (Option Timestamp) :=
  match v with
  | .str s =>
    if s = "" then .ok none
    else match Iso.read s with
      | .ok t => .ok (some t)
      | .error problem => .error (.badValue problem.message)
  | v => if v.truthy then .error .wrongKind else .ok none

namespace Schedule

def toJson (s : Schedule) : Json :=
  .obj [("remainingExecutions",s.remaining),("executionsDone",s.done),("nextDueAt",optTimestamp s.nextDue),
    ("lastExecutedAt",optTimestamp s.lastExecuted)]

def ofJson : Json → Except Fault Schedule
  | .obj fields => do
    let nextDue ← readTimestamp ((Fields.get? "nextDueAt" fields).getD .null)
    let lastExecuted ← readTimestamp ((Fields.get? "lastExecutedAt" fields).getD .null)
    pure ⟨(Fields.get? "remainingExecutions" fields).getD .null,(Fields.get? "executionsDone" fields).getD (.int 0),
      nextDue,lastExecuted⟩
  | _ => .error .noSuchPart

end Schedule

namespace Order

def kind (o : Order) : Kind := o.params.kind

def terminal (o : Order) : Bool := o.status.terminal

def stateFields (o : Order) : Fields :=
  (o.trailing.map fun t => ("trailing",t.toJson)).toList ++ (o.schedule.map fun s => ("schedule",s.toJson)).toList

def toFields (o : Order) : Fields :=
  [("id",o.id),("type",.str o.kind.name),("params",o.params.toJson),("status",.str o.status.name),
   ("flowId",o.flowId),("createdAt",.str o.createdAt.text),("updatedAt",.str o.updatedAt.text)] ++
  (o.triggeredAt.map fun t => ("triggeredAt",.str t.text)).toList ++
  (o.completedAt.map fun t => ("completedAt",.str t.text)).toList ++
  (if o.error.isNull then [] else [("error",o.error)]) ++
  (if o.stateFields.isEmpty then [] else [("state",.obj o.stateFields)])

def toJson (o : Order) : Json := .obj o.toFields

-- A part of the state by its name. Only an object has parts; a text or list that names one is no object.
def statePart (name : String) : Json → Except Fault (Option Json)
  | .obj fields => .ok (Fields.get? name fields)
  | .str s => if (s.splitOn name).length > 1 then .error .wrongKind else .ok none
  | .arr items => if items.any fun v => v.str? == some name then .error .wrongKind else .ok none
  | v => if v.truthy then .error .wrongKind else .ok none

def partOf (name : String) (read : Json → Except Fault α) (state : Json) : Except Fault (Option α) :=
  match statePart name state with
  | .error fault => .error fault
  | .ok none => .ok none
  | .ok (some part) => (read part).map some

def required (key : String) (fields : Fields) : Except Fault Json :=
  match Fields.get? key fields with
  | some v => .ok v
  | none => .error (.missingKey key)

def given (key : String) (fields : Fields) : Json := (Fields.get? key fields).getD .null

-- A stored order. Without a creation time it was created now.
def ofFields (now : Timestamp) (fields : Fields) : Except Fault Order := do
  let state := given "state" fields
  let trailing ← partOf "trailing" Trailing.ofJson state
  let schedule ← partOf "schedule" Schedule.ofJson state
  let createdAt := (← readTimestamp (given "createdAt" fields)).getD now
  let id ← required "id" fields
  let type ← required "type" fields
  let _ ← Kind.stored type
  let paramFields ← match ← required "params" fields with
    | .obj paramFields => pure paramFields
    | _ => throw .wrongKind
  let params ← Params.parseTagged (Fields.set "type" type paramFields)
  let status ← Status.stored (← required "status" fields)
  let updatedAt := (← readTimestamp (given "updatedAt" fields)).getD createdAt
  let triggeredAt ← readTimestamp (given "triggeredAt" fields)
  let completedAt ← readTimestamp (given "completedAt" fields)
  pure ⟨id,params,status,(Fields.get? "flowId" fields).getD (.str ""),createdAt,updatedAt,triggeredAt,
    completedAt,given "error" fields,trailing,schedule⟩

def ofJson (now : Timestamp) : Json → Except Fault Order
  | .obj fields => ofFields now fields
  | _ => .error .noSuchPart

end Order
end OrderDesk
