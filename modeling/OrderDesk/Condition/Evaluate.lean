import OrderDesk.Condition.Decode
import OrderDesk.Text.Split

-- Conditions against snapshots. What is missing, null or of another kind makes a leaf false; the only failure
-- is an integer too large to be compared with a float by equality.
namespace OrderDesk

abbrev Snapshot := Fields

namespace Snapshot

-- Follows the parts of a path into nested objects, as far as they lead.
def walk (v : Json) : List String → Option Json
  | [] => some v
  | part :: parts =>
    match v with
    | .obj fields => (Fields.get? part fields).bind fun inner => walk inner parts
    | _ => none

-- The value at a dotted path, else the field that has the whole path as its name, else null.
def resolve (snapshot : Snapshot) (path : String) : Json :=
  match walk (.obj snapshot) (Text.split '.' path) with
  | some v => v
  | none => (Fields.get? path snapshot).getD .null

end Snapshot

namespace Operator

-- How two numbers lie to each other, for the operators that ask for an order.
def holds (op : Operator) (order : Option Ordering) : Bool :=
  match op,order with
  | lt,some .lt | lte,some .lt | lte,some .eq | gt,some .gt | gte,some .gt | gte,some .eq => true
  | _,_ => false

-- Equality of two numbers as floats.
def sameFloat (x y : Number) : Except Fault Bool :=
  match x.toFloat?,y.toFloat? with
  | some a,some b => .ok ((Number.float a).eq (.float b))
  | _,_ => .error .overflow

def equality (actual expected : Json) : Except Fault (Option Bool) :=
  match actual.number?,expected.number?,actual.str?,expected.str? with
  | some x,some y,_,_ => (sameFloat x y).map some
  | _,_,some s,some t => .ok (some (s == t))
  | _,_,_,_ => .ok none

def theTwo : List Json → Except Fault (Json × Json)
  | [a,b] => .ok (a,b)
  | items =>
    .error (.badValue (if items.length < 2 then s!"not enough values to unpack (expected 2, got {items.length})"
      else "too many values to unpack (expected 2)"))

-- The ends of a range; a text has its characters as items, an object its keys.
def ends : Json → Except Fault (Json × Json)
  | .arr items => theTwo items
  | .str s => theTwo (s.toList.map fun c => .str (String.singleton c))
  | .obj fields => theTwo (fields.map fun field => .str field.1)
  | _ => .error .wrongKind

-- The upper end is looked at only when the lower one holds.
def inRange (x : Number) (expected : Json) : Except Fault Bool :=
  match ends expected with
  | .error fault => .error fault
  | .ok (low,high) =>
    match low.countable? with
    | none => .error .wrongKind
    | some low =>
      if low.le x then
        match high.countable? with
        | none => .error .wrongKind
        | some high => .ok (x.le high)
      else .ok false

-- One comparison. Values of different kinds are neither equal nor different, and in no order.
def compare (op : Operator) (actual expected : Json) : Except Fault Bool :=
  match actual with
  | .null => .ok false
  | actual =>
    match op with
    | eq => (equality actual expected).map fun same => same == some true
    | ne => (equality actual expected).map fun same => same == some false
    | op =>
      match actual.number? with
      | none => .ok false
      | some x =>
        match op with
        | between => inRange x expected
        | op => match expected.countable? with
          | some y => .ok (op.holds (x.compare? y))
          | none => .error .wrongKind

end Operator

namespace Condition

def actual (c : Condition) (snapshot : Snapshot) : Json := Snapshot.resolve snapshot c.field

def met (c : Condition) (snapshot : Snapshot) : Except Fault Bool :=
  c.test.operator.compare (c.actual snapshot) c.test.value

end Condition

structure Detail where
  condition : Condition
  met : Bool
  actual : Json

structure Report where
  met : Bool
  details : List Detail

namespace Node

mutual
-- Stops at the first child that settles a group.
def evaluate (snapshot : Snapshot) : Node → Except Fault Bool
  | leaf condition => condition.met snapshot
  | group .all children => evaluateAll snapshot children
  | group .any children => evaluateAny snapshot children

def evaluateAll (snapshot : Snapshot) : List Node → Except Fault Bool
  | [] => .ok true
  | child :: rest =>
    match child.evaluate snapshot with
    | .ok true => evaluateAll snapshot rest
    | other => other

def evaluateAny (snapshot : Snapshot) : List Node → Except Fault Bool
  | [] => .ok false
  | child :: rest =>
    match child.evaluate snapshot with
    | .ok false => evaluateAny snapshot rest
    | other => other
end

mutual
def report (snapshot : Snapshot) : Node → Except Fault Report
  | leaf condition =>
    (condition.met snapshot).map fun met => ⟨met,[⟨condition,met,condition.actual snapshot⟩]⟩
  | group junction children =>
    (reports snapshot children).map fun results =>
      ⟨junction.combine (results.map Report.met),results.flatMap Report.details⟩

def reports (snapshot : Snapshot) : List Node → Except Fault (List Report)
  | [] => .ok []
  | child :: rest =>
    match child.report snapshot with
    | .error fault => .error fault
    | .ok first => (reports snapshot rest).map (first :: ·)
end

end Node

namespace Group

def evaluate (g : Group) (snapshot : Snapshot) : Except Fault Bool := g.node.evaluate snapshot

-- The answer and each comparison; the comparisons only when they are wanted.
def report (g : Group) (snapshot : Snapshot) (detailed : Bool) : Except Fault Report :=
  (g.node.report snapshot).map fun full => ⟨full.met,if detailed then full.details else []⟩

end Group
end OrderDesk
