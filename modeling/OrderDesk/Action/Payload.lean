import OrderDesk.Fault
import OrderDesk.Json.Write

-- Actions and their arguments. A payload is an object, or a list of pairs; its keys are the names of arguments,
-- and the first key that is no argument refuses the payload.
namespace OrderDesk

inductive Action where
  | create
  | list
  | get
  | activate
  | pause
  | resume
  | cancel
  | stats
deriving DecidableEq

namespace Action

def all : List Action := [create,list,get,activate,pause,resume,cancel,stats]

def verb : Action → String
  | create => "create"
  | list => "list"
  | get => "get"
  | activate => "activate"
  | pause => "pause"
  | resume => "resume"
  | cancel => "cancel"
  | stats => "stats"

def name (a : Action) : String := "order:" ++ a.verb

def names : List String := (all.map name).mergeSort fun a b => a ≤ b

def ofName? (v : Json) : Option Action := v.str?.bind fun s => all.find? fun a => a.name == s

def ofVerb? (v : Json) : Option Action := v.str?.bind fun s => all.find? fun a => a.verb == s

def arguments : Action → List String
  | create => ["type","params"]
  | list => ["status","type","token","limit","offset"]
  | get | activate | pause | resume | cancel => ["order_id"]
  | stats => []

end Action

namespace Payload

def mistyped (message : String) : Fault := .raised "TypeError" message

def partsOf (place : Nat) : Json → Except Fault (List Json)
  | .arr items => .ok items
  | .obj fields => .ok (fields.map fun field => .str field.1)
  | .str s => .ok (s.toList.map fun c => .str (String.singleton c))
  | _ => .error (mistyped s!"cannot convert dictionary update sequence element #{place} to a sequence")

def pairOf (place : Nat) (v : Json) : Except Fault (Json × Json) := do
  match ← partsOf place v with
  | [key,value] => if key.isKey then pure (key,value) else throw (mistyped s!"unhashable type: '{key.kindName}'")
  | parts => throw (.badValue
      s!"dictionary update sequence element #{place} has length {parts.length}; 2 is required")

def pairsFrom : Nat → List Json → Except Fault (List (Json × Json))
  | _,[] => .ok []
  | place,v :: rest => do
    let pair ← pairOf place v
    pure (pair :: (← pairsFrom (place + 1) rest))

-- Names and values; an empty payload of any kind has none.
def pairs (payload : Json) : Except Fault (List (Json × Json)) :=
  if payload.truthy then
    match payload with
    | .obj fields => .ok (fields.map fun field => (.str field.1,field.2))
    | .arr items => pairsFrom 0 items
    | .str s => pairsFrom 0 (s.toList.map fun c => .str (String.singleton c))
    | v => .error (mistyped s!"'{v.kindName}' object is not iterable")
  else .ok []

def textPairs : List (Json × Json) → Except Fault (List (String × Json))
  | [] => .ok []
  | (.str name,v) :: rest => (textPairs rest).map ((name,v) :: ·)
  | _ :: _ => .error (mistyped "keywords must be strings")

-- The object that acts is itself an argument, and is given already.
def refusal? (a : Action) (name : String) : Option Fault :=
  let method := s!"OrderActions.{a.verb}()"
  if name = "self" then some (mistyped s!"{method} got multiple values for argument 'self'")
  else if a.arguments.contains name then none
  else some (mistyped s!"{method} got an unexpected keyword argument '{name}'")

def bind (a : Action) (payload : Json) : Except Fault Fields := do
  let fields := Fields.ofList (← textPairs (← pairs payload))
  match fields.findSome? fun field => refusal? a field.1 with
  | some fault => throw fault
  | none => pure fields

end Payload
end OrderDesk
