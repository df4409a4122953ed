import OrderDesk.Condition.Basic
import OrderDesk.Fault
import OrderDesk.Numeric.Decimal
import OrderDesk.Json.Write
import OrderDesk.Text.Case
import OrderDesk.Validation.Fields

-- Reading condition trees. Operators may be written as signs and in any case; comparison values may be text.
-- What a leaf may hold depends on its operator, so a tree that is read compares numbers with numbers and has
-- its ranges in order.
namespace OrderDesk

open Checked Validation

namespace Condition

-- Other spellings of operators.
def spellings : List (String × Operator) :=
  [("neq",.ne),("==",.eq),("!=",.ne),("<",.lt),("<=",.lte),(">",.gt),(">=",.gte)]

def operatorNames : List (String × Operator) := Operator.all.map fun op => (op.name,op)

def operatorOf (v : Json) : Checked Operator :=
  match v with
  | .str s =>
    let word := Text.lowerAscii (Text.strip s)
    match choice? spellings (.str word) with
    | some op => ok op
    | none => oneOf operatorNames (.str word)
  | v => oneOf operatorNames v

-- A number to compare with: never a truth value, never NaN.
def bound : Check Binary64
  | .bool _ => refuse (.rule "boolean is not a numeric comparison value")
  | .int n => match (Number.int n).toFloat? with
    | some x => ok x
    | none => overflow
  | .float x => notNaN x
  | .str s => match Text.readFloat? s with
    | some x => notNaN x
    | none => refuse (.rule (Text.quoted s ++ " is not numeric"))
  | v => refuse (.rule ("expected a number, got " ++ v.kindName))
where
  notNaN (x : Binary64) : Checked Binary64 :=
    if x.isNaN then refuse (.rule "NaN is not a valid comparison value") else ok x

-- A number or a text; NaN is a number here.
def constant (op : Operator) : Check Constant
  | .int n => match (Number.int n).toFloat? with
    | some x => ok (.number x)
    | none => overflow
  | .float x => ok (.number x)
  | .str s => ok (.text s)
  | _ => refuse (.rule (op.name ++ " expects a number or a string"))

def range : Check Test
  | .arr [a,b] =>
    (bound a).andThen fun low =>
      (bound b).andThen fun high =>
        if (Number.float low).gt (.float high) then
          refuse (.rule s!"between range is inverted ({Decimal.exact low} > {Decimal.exact high})")
        else ok (.within low high)
  | _ => refuse (.rule "between expects a [min, max] pair")

-- The test an operator makes of the given value.
def testBy : Operator → Check Test
  | .eq,v => (constant .eq v).map .equal
  | .ne,v => (constant .ne v).map .different
  | .lt,v => (bound v).map .less
  | .lte,v => (bound v).map .atMost
  | .gt,v => (bound v).map .greater
  | .gte,v => (bound v).map .atLeast
  | .between,v => range v

def lost (place : Nat) : Checked Unit := (refuse .missing).under (.index place)

def pairItems : List Json → Checked Unit
  | [] => both (lost 0) (lost 1)
  | [a] => both ((number a).under (.index 0)) (lost 1)
  | [a,b] => both ((number a).under (.index 0)) ((number b).under (.index 1))
  | items => refuse (.tooMany items.length)

def pair : Check Unit
  | .arr items => pairItems items
  | _ => refuse .notPair

-- Without an operator, a value is still known to be a number, a text or a pair of numbers.
def anyValue (v : Json) : Checked Unit :=
  match number v,text v,pair v with
  | ok _,_,_ | _,ok _,_ | _,_,ok _ => ok ()
  | notNumber,notText,notPair =>
    both (notNumber.under (.key "float")) (both (notText.under (.key "str"))
      (notPair.under (.key "tuple[float, float]")))

def testOf (fields : Fields) : Checked Test :=
  match needed (.ofName "operator") operatorOf fields with
  | ok op => needed (.ofName "value") (testBy op) fields
  | overflow => overflow
  | invalid first rest =>
    match needed (.ofName "value") anyValue fields with
    | ok _ => invalid first rest
    | overflow => overflow
    | invalid other others => invalid first (rest ++ other :: others)

def ofFields (fields : Fields) : Checked Condition :=
  zipWith Condition.mk (needed (.ofName "field") nonEmptyText fields) (testOf fields)

def ofJson : Check Condition := record "Condition" ofFields

end Condition

namespace Node

def junctionNames : List (String × Junction) := [("AND",.all),("OR",.any)]

def junctionOf : Check Junction
  | .str s => oneOf junctionNames (.str (Text.upper (Text.strip s)))
  | v => oneOf junctionNames v

-- A node with children is a group, whatever else it has; the children's field alone decides.
mutual
def ofJson : Json → Checked Node
  | .obj fields =>
    match childrenOf? fields with
    | some children =>
      zipWith group (needed (.ofName "operator") junctionOf fields) (children.under (.key "conditions"))
    | none => (Condition.ofFields fields).map leaf
  | _ => refuse (.notRecord "Condition")

def childrenOf? : List (String × Json) → Option (Checked (List Node))
  | [] => none
  | (key,v) :: rest => if key == "conditions" then some (listOf v) else childrenOf? rest

def listOf : Json → Checked (List Node)
  | .arr items => itemsFrom 0 items
  | _ => refuse .notList

def itemsFrom : Nat → List Json → Checked (List Node)
  | _,[] => ok []
  | place,v :: rest => zipWith (· :: ·) ((ofJson v).under (.index place)) (itemsFrom (place + 1) rest)
end

end Node

namespace Group

def ofJson : Check Group
  | .obj fields =>
    zipWith Group.mk (needed (.ofName "operator") Node.junctionOf fields)
      (match Node.childrenOf? fields with
       | some children => children.under (.key "conditions")
       | none => ok [])
  | _ => refuse (.notRecord "ConditionGroup")

-- As `ofJson`, a leaf alone counting as a group of one.
def ofInput : Check Group
  | .obj fields =>
    if Fields.has "field" fields && !Fields.has "conditions" fields then
      (Condition.ofFields fields).map fun condition => ofNode (.leaf condition)
    else ofJson (.obj fields)
  | v => ofJson v

-- Trees of any depth are read and written. Limits of the stack are left out: the interpreter's own, and the guard of the
-- validation library at 255 groups inside each other.
def parse (root : String) (v : Json) : Except Fault Group := (ofInput v).orFault root

end Group
end OrderDesk
