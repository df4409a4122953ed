import OrderDesk.Json.Basic

-- Conditions on a snapshot of market data. A leaf compares one field with constants; groups join leaves and
-- groups by AND or OR.
namespace OrderDesk

inductive Operator where
  | eq | ne | lt | lte | gt | gte | between
deriving DecidableEq

inductive Junction where
  | all | any
deriving DecidableEq

-- What equality is tested against.
inductive Constant where
  | number (x : Binary64)
  | text (s : String)
deriving DecidableEq

inductive Test where
  | equal (c : Constant)
  | different (c : Constant)
  | less (bound : Binary64)
  | atMost (bound : Binary64)
  | greater (bound : Binary64)
  | atLeast (bound : Binary64)
  | within (low high : Binary64)
deriving DecidableEq

structure Condition where
  field : String
  test : Test
deriving DecidableEq

inductive Node where
  | leaf (condition : Condition)
  | group (junction : Junction) (children : List Node)
deriving BEq

instance : Inhabited Node := ⟨.group .all []⟩

-- The root of a condition tree is always a group.
structure Group where
  junction : Junction
  children : List Node
deriving BEq

instance : Inhabited Group := ⟨.all,[]⟩

namespace Operator

def all : List Operator := [eq,ne,lt,lte,gt,gte,between]

def name : Operator → String
  | eq => "eq"
  | ne => "ne"
  | lt => "lt"
  | lte => "lte"
  | gt => "gt"
  | gte => "gte"
  | between => "between"

def ofName? (name : String) : Option Operator := all.find? fun op => op.name == name

def symbol : Operator → String
  | eq => "="
  | ne => "!="
  | lt => "<"
  | lte => "<="
  | gt => ">"
  | gte => ">="
  | between => "between"

end Operator

namespace Junction

def name : Junction → String
  | all => "AND"
  | any => "OR"

def combine (junction : Junction) (results : List Bool) : Bool :=
  match junction with
  | all => results.all id
  | any => results.any id

end Junction

namespace Test

def operator : Test → Operator
  | equal _ => .eq
  | different _ => .ne
  | less _ => .lt
  | atMost _ => .lte
  | greater _ => .gt
  | atLeast _ => .gte
  | within .. => .between

def ofConstant : Constant → Json
  | .number x => .float x
  | .text s => .str s

def value : Test → Json
  | equal c | different c => ofConstant c
  | less bound | atMost bound | greater bound | atLeast bound => .float bound
  | within low high => .arr [.float low,.float high]

end Test

namespace Node

mutual
def leaves : Node → List Condition
  | leaf condition => [condition]
  | group _ children => leavesOf children

def leavesOf : List Node → List Condition
  | [] => []
  | child :: rest => child.leaves ++ leavesOf rest
end

end Node

namespace Group

def node (g : Group) : Node := .group g.junction g.children

def leaves (g : Group) : List Condition := Node.leavesOf g.children

-- A leaf alone counts as a group of one; a group stays as it is.
def ofNode : Node → Group
  | .leaf condition => ⟨.all,[.leaf condition]⟩
  | .group junction children => ⟨junction,children⟩

def allOf (children : List Node) : Group := ⟨.all,children⟩

def anyOf (children : List Node) : Group := ⟨.any,children⟩

end Group
end OrderDesk
