import OrderDesk.Order.Record

-- Orders as rows of a table. Identifiers and error texts are text columns, so numbers and truth values become
-- texts there; parameters and state are kept as JSON.
namespace OrderDesk

-- Whole numbers in a table have 64 bits.
def columnLimit : Nat := 2 ^ 63

-- A float in a text column has fifteen digits, and zero no sign.
def columnFloat : Binary64 → Option String
  | .nan => none
  | .infinite negative => some (if negative then "-Inf" else "Inf")
  | .finite negative quanta _ =>
    some (if quanta = 0 then "0.0"
      else Decimal.withSign negative (Decimal.Layout.column.write (Decimal.rounded quanta 15)))

-- The text of a value in a text column, nothing for null.
def columnText : Json → Except Fault (Option String)
  | .null => .ok none
  | .str s => .ok (some s)
  | .bool b => .ok (some (if b then "1" else "0"))
  | .int n =>
    if -(columnLimit : Int) ≤ n ∧ n < columnLimit then .ok (some (toString n)) else .error .overflow
  | .float x => .ok (columnFloat x)
  | .arr _ | .obj _ => .error .unstorable

structure Row where
  id : Option String
  kind : Kind
  status : Status
  token : String
  flowId : String
  createdAt : String
  updatedAt : String
  triggeredAt : Option String
  completedAt : Option String
  error : Option String
  params : Json
  state : Json
deriving BEq

namespace Row

def ofOrder (o : Order) : Except Fault Row := do
  let id ← columnText o.id
  let flowId ← columnText o.flowId
  let error ← columnText o.error
  pure ⟨id,o.kind,o.status,o.params.token,flowId.getD "",o.createdAt.text,o.updatedAt.text,
    o.triggeredAt.map Timestamp.text,o.completedAt.map Timestamp.text,error,o.params.toJson,.obj o.stateFields⟩

def fields (r : Row) : Fields :=
  [("id",.optStr r.id),("type",.str r.kind.name),("status",.str r.status.name),("flowId",.str r.flowId),
   ("createdAt",.str r.createdAt),("updatedAt",.str r.updatedAt),("triggeredAt",.optStr r.triggeredAt),
   ("completedAt",.optStr r.completedAt),("error",.optStr r.error),("params",r.params),("state",r.state)]

-- A row always has its creation time.
def toOrder (r : Row) : Except Fault Order := Order.ofFields .origin r.fields

end Row
end OrderDesk
