import OrderDesk.Validation.Issue
import OrderDesk.Text.Numerals

-- Checks of single values and of the fields of a record. Numbers may be given as text or as truth values; text
-- is never made from anything else.
namespace OrderDesk.Validation

open Checked

abbrev Check (α : Type) := Json → Checked α

-- A field has one name on the wire and one plain name; both are accepted, the wire name first.
structure Key where
  wire : String
  plain : String

def Key.ofName (name : String) : Key := ⟨name,name⟩

def Key.find? (key : Key) (fields : Fields) : Option (String × Json) :=
  match fields.get? key.wire with
  | some value => some (key.wire,value)
  | none => (fields.get? key.plain).map fun value => (key.plain,value)

-- A field without which the record is refused.
def needed (key : Key) (check : Check α) (fields : Fields) : Checked α :=
  match key.find? fields with
  | some (name,value) => (check value).under (.key name)
  | none => (refuse .missing).under (.key key.wire)

def given (key : Key) (default : α) (check : Check α) (fields : Fields) : Checked α :=
  match key.find? fields with
  | some (name,value) => (check value).under (.key name)
  | none => ok default

def record (name : String) (check : Fields → Checked α) : Check α
  | .obj fields => check fields
  | _ => refuse (.notRecord name)

def text : Check String
  | .str s => ok s
  | _ => refuse .notText

def nonEmptyText (v : Json) : Checked String :=
  (text v).andThen fun s => if s = "" then refuse .emptyText else ok s

def optional (check : Check α) : Check (Option α)
  | .null => ok none
  | v => (check v).map some

def itemsFrom (check : Check α) : Nat → List Json → Checked (List α)
  | _,[] => ok []
  | place,v :: rest => zipWith (· :: ·) ((check v).under (.index place)) (itemsFrom check (place + 1) rest)

def list (check : Check α) : Check (List α)
  | .arr items => itemsFrom check 0 items
  | _ => refuse .notList

def mapping : Check Fields
  | .obj fields => ok fields
  | _ => refuse .notMapping

def choice? (choices : List (String × α)) (v : Json) : Option α :=
  v.str?.bind fun s => (choices.find? fun choice => choice.1 == s).map (·.2)

def oneOf (choices : List (String × α)) (v : Json) : Checked α :=
  match choice? choices v with
  | some a => ok a
  | none => refuse (.notOneOf (choices.map (·.1)))

def member (choices : List (String × α)) (v : Json) : Checked α :=
  match choice? choices v with
  | some a => ok a
  | none => refuse (.notMember (choices.map (·.1)))

def number : Check Binary64
  | .float x => ok x
  | .bool b => ok (if b then 1 else 0)
  | .int n => match (Number.int n).toFloat? with
    | some x => ok x
    | none => refuse .notNumber
  | .str s => match Text.Field.float? s with
    | some x => ok x
    | none => refuse .unreadableNumber
  | _ => refuse .notNumber

def Bound.admits (x : Number) : Bound → Bool
  | .above limit => x.gt (.int limit)
  | .atLeast limit => x.ge (.int limit)
  | .below limit => x.lt (.int limit)
  | .atMost limit => x.le (.int limit)

-- A bound from above is tested before one from below.
def within (bounds : List Bound) (x : Number) (value : α) : Checked α :=
  match bounds.find? fun bound => !Bound.admits x bound with
  | some bound => refuse (.outside bound)
  | none => ok value

def boundedNumber (bounds : List Bound) (v : Json) : Checked Binary64 :=
  (number v).andThen fun x => within bounds (.float x) x

def positive : Check Binary64 := boundedNumber [.above 0]

def percent : Check Binary64 := boundedNumber [.atMost 100,.above 0]

-- The smallest power of two that a whole float may not reach.
def wholeLimit : Nat := 2 ^ 63

def whole : Check Int
  | .int n => ok n
  | .bool b => ok (if b then 1 else 0)
  | .float x =>
    match x.floorParts with
    | none => refuse .notFinite
    | some (n,0) => if n.natAbs < wholeLimit then ok n else refuse .wholeTooLong
    | some _ => refuse .fractional
  | .str s => match Text.Field.whole s with
    | .value n => ok n
    | .unreadable => refuse .unreadableWhole
    | .tooLong => refuse .wholeTooLong
  | _ => refuse .notWhole

def wholeAtLeast (limit : Nat) (v : Json) : Checked Int :=
  (whole v).andThen fun n => within [.atLeast limit] (.int n) n

def truthWords : List (String × Bool) :=
  [("0",false),("off",false),("f",false),("false",false),("n",false),("no",false),
   ("1",true),("on",true),("t",true),("true",true),("y",true),("yes",true)]

def truthOf (n : Int) : Checked Bool :=
  if n = 0 then ok false
  else if n = 1 then ok true
  else if n.natAbs < wholeLimit then refuse .unreadableTruth
  else refuse .notTruth

def truth : Check Bool
  | .bool b => ok b
  | .int n => truthOf n
  | .float x => match x.toInt? with
    | some n => truthOf n
    | none => refuse .notTruth
  | .str s =>
    match truthWords.find? fun word => word.1 == String.ofList (s.toList.map Char.toLower) with
    | some word => ok word.2
    | none => refuse .unreadableTruth
  | _ => refuse .notTruth

end OrderDesk.Validation
