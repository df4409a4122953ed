import OrderDesk.Settings.Basic
import OrderDesk.Store.Row

-- The table of orders: kept in memory, where an order that is set again keeps its place, or as rows, where it
-- becomes the last row and listings go by the text of the creation time.
namespace OrderDesk

inductive Store where
  | memory (orders : List Order)
  | table (rows : List Row)

namespace Store

def empty : Backend → Store
  | .memory => memory []
  | .table => table []

def hasId (id : Json) (o : Order) : Bool := o.id.sameKey id

-- Replaces the order of the same id in its place, or adds it at the end.
def replace (o : Order) : List Order → List Order
  | [] => [o]
  | old :: rest => if hasId o.id old then o :: rest else old :: replace o rest

-- Null is the id of no row.
def rowHasId (id : Option String) (r : Row) : Bool := id.isSome && r.id == id

-- Only texts, numbers, truth values and null can be ids in memory.
def usableId (id : Json) : Except Fault Unit := if id.isKey then .ok () else .error .wrongKind

def get (id : Json) : Store → Except Fault (Option Order)
  | memory orders => (usableId id).map fun _ => orders.find? (hasId id)
  | table rows => do
    let id ← columnText id
    match rows.find? (rowHasId id) with
    | none => pure none
    | some r => pure (some (← r.toOrder))

def set (o : Order) : Store → Except Fault Store
  | memory orders => (usableId o.id).map fun _ => memory (replace o orders)
  | table rows => (Row.ofOrder o).map fun r => table ((rows.filter fun old => !rowHasId r.id old) ++ [r])

def delete (id : Json) : Store → Except Fault (Store × Bool)
  | memory orders => (usableId id).map fun _ => (memory (orders.filter (!hasId id ·)),orders.any (hasId id))
  | table rows => (columnText id).map fun id => (table (rows.filter (!rowHasId id ·)),rows.any (rowHasId id))

def ordersOf : List Row → Except Fault (List Order)
  | [] => .ok []
  | r :: rest => do
    let o ← r.toOrder
    pure (o :: (← ordersOf rest))

def list : Store → Except Fault (List Order)
  | memory orders => .ok orders
  | table rows => ordersOf (rows.mergeSort fun a b => a.createdAt ≤ b.createdAt)

end Store

-- What a store does. Only a table prints numbers, and refuses those of more digits than the interpreter prints;
-- only a table has to commit.
inductive Access where
  | get
  | set
  | delete
  | list
  | print (digits : Nat)
  | commit
deriving DecidableEq

-- Parameters and state are what a table prints.
def Order.within (digits : Nat) (o : Order) : Bool := o.params.toJson.within digits && (Json.obj o.stateFields).within digits

def Access.refuses (o : Order) : Access → Bool
  | print digits => !o.within digits
  | _ => false

-- A store, and the faults of the kinds of access that are out of order. Where none is, numbers may have any length.
structure Storage where
  store : Store
  broken : List (Access × Fault)

namespace Storage

def fault? (s : Storage) (access : Access) : Option Fault :=
  (s.broken.find? fun entry => entry.1 == access).map (·.2)

def working (s : Storage) (access : Access) : Except Fault Unit :=
  match s.fault? access with
  | some fault => .error fault
  | none => .ok ()

def get (s : Storage) (id : Json) : Except Fault (Option Order) := s.working .get >>= fun _ => s.store.get id

def printing (s : Storage) (o : Order) : Except Fault Unit :=
  match s.store with
  | .memory _ => .ok ()
  | .table _ => match s.broken.find? fun entry => entry.1.refuses o with
    | some (_,fault) => .error fault
    | none => .ok ()

def write (s : Storage) (o : Order) : Except Fault Storage := do
  s.working .set
  s.printing o
  pure {s with store := ← s.store.set o}

def remove (s : Storage) (id : Json) : Except Fault (Storage × Bool) := do
  s.working .delete
  let (store,found) ← s.store.delete id
  pure ({s with store},found)

def commit (s : Storage) : Except Fault Unit :=
  match s.store with
  | .memory _ => .ok ()
  | .table _ => s.working .commit

-- Nothing is rolled back: where the commit fails, what was written is there, and the next commit keeps it.
def set (s : Storage) (o : Order) : Storage × Except Fault Unit :=
  match s.write o with
  | .error fault => (s,.error fault)
  | .ok after => (after,after.commit)

def delete (s : Storage) (id : Json) : Storage × Except Fault Bool :=
  match s.remove id with
  | .error fault => (s,.error fault)
  | .ok (after,found) => (after,after.commit.map fun _ => found)

def list (s : Storage) : Except Fault (List Order) := s.working .list >>= fun _ => s.store.list

def breakAt (s : Storage) (access : Access) (fault : Fault) : Storage := {s with broken := (access,fault) :: s.broken}

def mend (s : Storage) (access : Access) : Storage := {s with broken := s.broken.filter fun entry => entry.1 != access}

end Storage
end OrderDesk
