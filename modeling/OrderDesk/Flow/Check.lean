import OrderDesk.Flow.Basic
import OrderDesk.Json.Shown

-- The structural rules of flows: node ids are unique, the entry is a node, edges join nodes, each node has the
-- edges of its role, every node is reachable from the entry, and some node ends the flow. The first rule that
-- is broken is reported.
namespace OrderDesk

inductive FlowDefect where
  | duplicateIds
  | noEntry (entry : String)
  | danglingEdge (edge : String)
  | wrongEdges (node : String) (role : Role) (labels expected : List String)
  | unreachable (nodes : List String)
  | noEnd
deriving DecidableEq

def textList (texts : List String) : String := (Json.strs texts).quoted

def FlowDefect.text : FlowDefect → String
  | duplicateIds => "duplicate node ids"
  | noEntry entry => s!"entry node {Text.quoted entry} does not exist"
  | danglingEdge edge => s!"edge {edge} references a missing node"
  | wrongEdges node role labels expected =>
    s!"node {node} ({role.name}) has edges {textList labels}, expected {textList expected}"
  | unreachable nodes => "unreachable nodes " ++ textList nodes
  | noEnd => "no terminal node"

-- A breadth-first search: the nodes that were found, and those of them whose edges are still to be followed.
structure Search where
  found : List String
  waiting : List String

namespace Search

def start (id : String) : Search := ⟨[id],[id]⟩

def meet (s : Search) (id : String) : Search :=
  if s.found.contains id then s else ⟨s.found ++ [id],s.waiting ++ [id]⟩

-- Follows the edges of the node that has waited longest.
def round (successors : String → List String) (s : Search) : Search :=
  match s.waiting with
  | [] => s
  | id :: waiting => (successors id).foldl meet ⟨s.found,waiting⟩

def rounds (successors : String → List String) : Nat → Search → Search
  | 0,s => s
  | n + 1,s => rounds successors n (s.round successors)

end Search

namespace Flow

def ids (f : Flow) : List String := f.nodes.map FlowNode.id

def successors (f : Flow) (id : String) : List String := (f.outgoing id).map FlowEdge.target

-- What can be reached from the entry: the queue is empty after as many rounds as there are edges, and one more.
def reachable (f : Flow) : List String :=
  ((Search.start f.entry).rounds f.successors (f.edges.length + 1)).found

-- The labels a role asks for, in the order of their names.
def expectedLabels : Role → List String
  | .terminal => []
  | .checkCondition => ["false","true"]
  | _ => ["always"]

def labelsOf (f : Flow) (id : String) : List String :=
  ((f.outgoing id).map fun edge => edge.label.name).mergeSort fun a b => a ≤ b

def dangling (f : Flow) (edge : FlowEdge) : Bool := !f.ids.contains edge.source || !f.ids.contains edge.target

def wrongNode (f : Flow) (node : FlowNode) : Bool := f.labelsOf node.id != expectedLabels node.role

def unreached (f : Flow) : List String := f.ids.filter fun id => !f.reachable.contains id

def ending (f : Flow) (id : String) : Bool := (f.node? id).any fun node => node.role == .terminal

def defect? (f : Flow) : Option FlowDefect :=
  if !decide f.ids.Nodup then some .duplicateIds
  else if !f.ids.contains f.entry then some (.noEntry f.entry)
  else match f.edges.find? f.dangling with
    | some edge => some (.danglingEdge edge.id)
    | none => match f.nodes.find? f.wrongNode with
      | some node => some (.wrongEdges node.id node.role (f.labelsOf node.id) (expectedLabels node.role))
      | none =>
        if !f.unreached.isEmpty then some (.unreachable (f.unreached.mergeSort fun a b => a ≤ b))
        else if !f.reachable.any f.ending then some .noEnd
        else none

-- The text of the entry is asked for once the ids are known to be unique.
def check (f : Flow) : Except Fault Unit :=
  if decide f.ids.Nodup && !f.entryValue.printable then .error .unprintable
  else match f.defect? with
    | none => .ok ()
    | some defect => .error (.malformed s!"flow {f.id}: {defect.text}")

end Flow
end OrderDesk
