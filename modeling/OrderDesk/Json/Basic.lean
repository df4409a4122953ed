import OrderDesk.Numeric.Number

-- JSON values. Integers and floats are told apart, NaN and the infinities are values, and an object keeps the
-- order of its fields. Snapshots, stored state and flow data are of this type.
namespace OrderDesk

inductive Json where
  | null
  | bool (b : Bool)
  | int (n : Int)
  | float (x : Binary64)
  | str (s : String)
  | arr (items : List Json)
  | obj (fields : List (String × Json))
deriving BEq

instance : Inhabited Json := ⟨.null⟩

abbrev Fields := List (String × Json)

namespace Fields

def get? (key : String) (fields : Fields) : Option Json :=
  (fields.find? fun field => field.1 == key).map (·.2)

def has (key : String) (fields : Fields) : Bool := fields.any fun field => field.1 == key

-- Replaces the value in its place, or adds the field at the end.
def set (key : String) (value : Json) : Fields → Fields
  | [] => [(key,value)]
  | (k,v) :: rest => if k == key then (k,value) :: rest else (k,v) :: set key value rest

def erase (key : String) (fields : Fields) : Fields := fields.filter fun field => field.1 != key

def keys (fields : Fields) : List String := fields.map (·.1)

-- A field given twice keeps its first place and its last value.
def ofList (entries : List (String × Json)) : Fields :=
  entries.foldl (fun fields entry => set entry.1 entry.2 fields) []

end Fields

namespace Json

def ofNumber : Number → Json
  | .int n => int n
  | .float x => float x

-- Integers and floats; a truth value is no number.
def number? : Json → Option Number
  | int n => some (.int n)
  | float x => some (.float x)
  | _ => none

-- As `number?`, a truth value counting as one or zero.
def countable? : Json → Option Number
  | bool b => some (.int (if b then 1 else 0))
  | v => v.number?

def isNull : Json → Bool
  | null => true
  | _ => false

def str? : Json → Option String
  | str s => some s
  | _ => none

def ofOption (f : α → Json) : Option α → Json
  | none => null
  | some a => f a

def optStr : Option String → Json := ofOption str

def strs (texts : List String) : Json := arr (texts.map str)

-- Empty values, zeros and null are false, all else is true.
def truthy : Json → Bool
  | null => false
  | bool b => b
  | int n => n != 0
  | float x => !x.isZero
  | str s => s != ""
  | arr items => !items.isEmpty
  | obj fields => !fields.isEmpty

def kindName : Json → String
  | null => "NoneType"
  | bool _ => "bool"
  | int _ => "int"
  | float _ => "float"
  | str _ => "str"
  | arr _ => "list"
  | obj _ => "dict"

-- Equality of scalars as keys: numbers and truth values by their size.
def sameKey (a b : Json) : Bool :=
  match a,b with
  | null,null => true
  | str s,str t => s == t
  | a,b => match a.countable?,b.countable? with
    | some x,some y => x.eq y
    | _,_ => false

-- Lists and objects cannot be keys.
def isKey : Json → Bool
  | arr _ | obj _ => false
  | _ => true

end Json
end OrderDesk
