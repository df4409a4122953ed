import OrderDesk.Json.Write

-- Execution graphs. A flow is a list of nodes and a list of edges that name nodes by their ids, so loops back
-- to an earlier node need nothing special.
namespace OrderDesk

inductive Role where
  | checkCondition
  | executeTrade
  | notify
  | waitTick
  | updateState
  | terminal
deriving DecidableEq

-- When an edge is taken: on an outcome of a check, or whatever the outcome.
inductive Label where
  | onTrue
  | onFalse
  | always
deriving DecidableEq

structure FlowNode where
  id : String
  role : Role
  name : String
  data : Fields
deriving BEq

structure FlowEdge where
  id : String
  source : String
  target : String
  label : Label
deriving DecidableEq

structure Flow where
  id : String
  name : String
  description : String
  version : String
  nodes : List FlowNode
  edges : List FlowEdge
  metadata : Fields
deriving BEq

namespace Role

def all : List Role := [checkCondition,executeTrade,notify,waitTick,updateState,terminal]

def name : Role → String
  | checkCondition => "check-condition"
  | executeTrade => "execute-trade"
  | notify => "notify"
  | waitTick => "wait-tick"
  | updateState => "update-state"
  | terminal => "terminal"

end Role

namespace Label

def all : List Label := [onTrue,onFalse,always]

def name : Label → String
  | onTrue => "true"
  | onFalse => "false"
  | always => "always"

-- The edge that an outcome asks for; without an outcome, one that is always taken.
def ofOutcome : Option Bool → Label
  | none => always
  | some true => onTrue
  | some false => onFalse

end Label

namespace Flow

def entryValue (f : Flow) : Json := (Fields.get? "entry" f.metadata).getD (.str "")

-- The id of the first node, as text whatever it is.
def entry (f : Flow) : String := f.entryValue.display

def node? (f : Flow) (id : String) : Option FlowNode := f.nodes.find? fun node => node.id == id

def withRole (f : Flow) (role : Role) : List FlowNode := f.nodes.filter fun node => node.role == role

def outgoing (f : Flow) (id : String) : List FlowEdge := f.edges.filter fun edge => edge.source == id

def next? (f : Flow) (id : String) (outcome : Option Bool) : Option String :=
  ((f.outgoing id).find? fun edge => edge.label == Label.ofOutcome outcome || edge.label == .always).map (·.target)

def structurePart (f : Flow) : List (String × Role) × List (String × String × Label) :=
  (f.nodes.map fun node => (node.id,node.role),f.edges.map fun edge => (edge.source,edge.target,edge.label))

end Flow
end OrderDesk
