import OrderDesk.Fault
import OrderDesk.Flow.Basic

-- Flows before they belong to an order. A draft names its nodes by keys; the ids of the finished flow are the
-- order's id and the key.
namespace OrderDesk

structure DraftNode where
  key : String
  role : Role
  name : String
  data : Fields

structure Link where
  source : String
  target : String
  label : Label

-- The entry comes first among the nodes.
structure Draft where
  name : String
  description : String
  first : DraftNode
  rest : List DraftNode
  links : List Link

namespace Draft

def nodes (d : Draft) : List DraftNode := d.first :: d.rest

def nodeId (owner : Json) (key : String) : String := owner.display ++ ":" ++ key

end Draft

def DraftNode.finish (owner : Json) (n : DraftNode) : FlowNode :=
  ⟨Draft.nodeId owner n.key,n.role,n.name,n.data⟩

def Link.finish (owner : Json) (l : Link) : FlowEdge :=
  let source := Draft.nodeId owner l.source
  let target := Draft.nodeId owner l.target
  ⟨source ++ "->" ++ target,source,target,l.label⟩

def Flow.idOf (owner : Json) : String := Draft.nodeId owner "flow"

end OrderDesk
