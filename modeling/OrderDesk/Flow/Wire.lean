import OrderDesk.Fault
import OrderDesk.Flow.Basic
import OrderDesk.Validation.Fields

-- Flows on the wire. Edges are written with `from` and `to`; numbers that are not finite are written as null
-- inside node data and metadata. Data may be nested to any depth: the validation library gives up a flow with
-- more than 127 levels.
namespace OrderDesk

open Checked Validation

namespace Json

mutual
-- Only finite numbers; any other number becomes null.
def finiteOnly : Json → Json
  | float x => if x.isFinite then float x else null
  | arr items => arr (finiteItems items)
  | obj fields => obj (finiteFields fields)
  | v => v

def finiteItems : List Json → List Json
  | [] => []
  | v :: rest => v.finiteOnly :: finiteItems rest

def finiteFields : List (String × Json) → List (String × Json)
  | [] => []
  | (key,v) :: rest => (key,v.finiteOnly) :: finiteFields rest
end

end Json

def FlowNode.toJson (n : FlowNode) : Json :=
  .obj [("id",.str n.id),("role",.str n.role.name),("name",.str n.name),("data",(Json.obj n.data).finiteOnly)]

def FlowEdge.toJson (e : FlowEdge) : Json :=
  .obj [("id",.str e.id),("from",.str e.source),("to",.str e.target),("condition",.str e.label.name)]

def Flow.toJson (f : Flow) : Json :=
  .obj [("id",.str f.id),("name",.str f.name),("description",.str f.description),("version",.str f.version),
    ("nodes",.arr (f.nodes.map FlowNode.toJson)),("edges",.arr (f.edges.map FlowEdge.toJson)),
    ("metadata",(Json.obj f.metadata).finiteOnly)]

namespace FlowNode

def ofFields (fields : Fields) : Checked FlowNode :=
  FlowNode.mk <$> needed (.ofName "id") text fields
    <*> needed (.ofName "role") (member (Role.all.map fun role => (role.name,role))) fields
    <*> needed (.ofName "name") text fields
    <*> given (.ofName "data") [] mapping fields

end FlowNode

namespace FlowEdge

def ofFields (fields : Fields) : Checked FlowEdge :=
  FlowEdge.mk <$> needed (.ofName "id") text fields
    <*> needed ⟨"from","source"⟩ text fields
    <*> needed ⟨"to","target"⟩ text fields
    <*> given (.ofName "condition") .always (oneOf (Label.all.map fun label => (label.name,label))) fields

end FlowEdge

namespace Flow

def ofFields (fields : Fields) : Checked Flow :=
  Flow.mk <$> needed (.ofName "id") text fields
    <*> needed (.ofName "name") text fields
    <*> needed (.ofName "description") text fields
    <*> needed (.ofName "version") text fields
    <*> needed (.ofName "nodes") (list (record "FlowNode" FlowNode.ofFields)) fields
    <*> needed (.ofName "edges") (list (record "FlowEdge" FlowEdge.ofFields)) fields
    <*> given (.ofName "metadata") [] mapping fields

def ofJson : Check Flow := record "Flow" ofFields

end Flow
end OrderDesk
