import OrderDesk.Flow.Basic
import OrderDesk.Json.Write

-- Where flows run. There may be no runtime, a registry of our own, or a runtime elsewhere, of which only its
-- answers are known.
namespace OrderDesk

-- The answer to one request. A runtime that fails may even have taken the order out of the store. Answers are truth values:
-- one whose truth test raises is left out, and so are failures without a text and interrupts of the process.
inductive Reply where
  | accepted
  | refused
  | failed (message : String) (forgets : Bool)
deriving DecidableEq

-- The answers to the first request of a runtime, the second, and so on.
structure Remote where
  registering : Nat → Reply
  cancelling : Nat → Reply

-- Flows by their ids, in the order of their first registration, and the ids that were cancelled.
structure Registry where
  flows : List Flow
  cancelled : List String
deriving BEq

inductive Runtime where
  | none
  | registry (r : Registry)
  | remote (r : Remote)

namespace Registry

def empty : Registry := ⟨[],[]⟩

def replace (f : Flow) : List Flow → List Flow
  | [] => [f]
  | old :: rest => if old.id = f.id then f :: rest else old :: replace f rest

-- A flow that is registered again runs again.
def register (r : Registry) (f : Flow) : Registry := ⟨replace f r.flows,r.cancelled.filter (· ≠ f.id)⟩

def find? (r : Registry) (id : String) : Option Flow := r.flows.find? fun f => f.id == id

def holds (r : Registry) (id : String) : Bool := r.flows.any fun f => f.id == id

def isCancelled (r : Registry) (id : String) : Bool := r.cancelled.contains id

-- Only registered flows can be cancelled.
def cancel (r : Registry) (id : String) : Registry × Reply :=
  if r.holds id then (if r.isCancelled id then r else {r with cancelled := r.cancelled ++ [id]},.accepted)
  else (r,.refused)

-- A list or an object cannot even be looked for.
def unlookable? : Json → Option String
  | .arr _ => some "unhashable type: 'list'"
  | .obj _ => some "unhashable type: 'dict'"
  | _ => Option.none

-- As `cancel`, by whatever an order has as the id of its flow.
def cancelBy (r : Registry) (id : Json) : Registry × Reply :=
  match unlookable? id,id with
  | some problem,_ => (r,.failed problem false)
  | Option.none,.str id => r.cancel id
  | Option.none,_ => (r,.refused)

end Registry
end OrderDesk
