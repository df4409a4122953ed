import OrderDesk.Condition.Basic

-- Condition trees on the wire, whatever their depth: the interpreter's limit of the stack is left out.
namespace OrderDesk

def Condition.toJson (c : Condition) : Json :=
  .obj [("field",.str c.field),("operator",.str c.test.operator.name),("value",c.test.value)]

namespace Node

mutual
def toJson : Node → Json
  | leaf condition => condition.toJson
  | group junction children =>
    .obj [("operator",.str junction.name),("conditions",.arr (toJsonList children))]

def toJsonList : List Node → List Json
  | [] => []
  | child :: rest => child.toJson :: toJsonList rest
end

end Node

def Group.toJson (g : Group) : Json := g.node.toJson

end OrderDesk
