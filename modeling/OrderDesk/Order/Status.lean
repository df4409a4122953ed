import OrderDesk.Json.Shown

-- The statuses of an order and the moves between them.
namespace OrderDesk

inductive Status where
  | created
  | active
  | paused
  | triggered
  | completed
  | failed
  | cancelled
deriving DecidableEq

namespace Status

def all : List Status := [created,active,paused,triggered,completed,failed,cancelled]

def name : Status → String
  | created => "created"
  | active => "active"
  | paused => "paused"
  | triggered => "triggered"
  | completed => "completed"
  | failed => "failed"
  | cancelled => "cancelled"

def ofJson? (v : Json) : Option Status := v.str?.bind fun s => all.find? fun status => status.name == s

def stored (v : Json) : Except Fault Status :=
  match ofJson? v with
  | some status => .ok status
  | none => v.shownQuoted.bind fun text => .error (.badValue (text ++ " is not a valid OrderStatus"))

def terminal : Status → Bool
  | completed | failed | cancelled => true
  | _ => false

-- Only the runtime that walks the flow reports these.
def fromRuntime : Status → Bool
  | triggered | completed | failed => true
  | _ => false

def next : Status → List Status
  | created => [active,triggered,cancelled]
  | active => [paused,triggered,cancelled]
  | paused => [active,triggered,cancelled]
  | triggered => [completed,failed]
  | completed | failed | cancelled => []

def canMove (current target : Status) : Bool := (next current).contains target

end Status
end OrderDesk
