import OrderDesk.Condition.Basic
import OrderDesk.Numeric.Display

-- Condition trees as one line of text, nested groups in parentheses.
namespace OrderDesk

def Constant.summary : Constant → String
  | .number x => x.short
  | .text s => s

namespace Test

def summary : Test → String
  | equal c | different c => c.summary
  | less bound | atMost bound | greater bound | atLeast bound => bound.short
  | within low high => s!"{low.short} - {high.short}"

end Test

def Condition.summary (c : Condition) : String := s!"{c.field} {c.test.operator.symbol} {c.test.summary}"

namespace Node

mutual
def summary : Node → String
  | leaf condition => condition.summary
  | group junction children => (" " ++ junction.name ++ " ").intercalate (childSummaries children)

def childSummaries : List Node → List String
  | [] => []
  | leaf condition :: rest => condition.summary :: childSummaries rest
  | group junction children :: rest =>
    ("(" ++ (group junction children).summary ++ ")") :: childSummaries rest
end

end Node

def Group.summary (g : Group) : String := g.node.summary

end OrderDesk
