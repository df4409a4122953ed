import OrderDesk.Numeric.Binary64

-- Numbers as market data and stored records carry them: integers of any size beside floats. Integers and floats
-- are compared exactly, never through a rounding.
namespace OrderDesk

inductive Number where
  | int (n : Int)
  | float (x : Binary64)
deriving DecidableEq

namespace Number

instance : Inhabited Number := ⟨.int 0⟩
instance (n : Nat) : OfNat Number n := ⟨.int n⟩

-- A place on the line from minus to plus infinity, counted in quanta.
inductive Place where
  | below
  | at (quanta : Int)
  | above
deriving DecidableEq

def Place.compare : Place → Place → Ordering
  | .below,.below | .above,.above => .eq
  | .below,_ | _,.above => .lt
  | _,.below | .above,_ => .gt
  | .at x,.at y => Ord.compare x y

-- Only NaN has no place.
def place : Number → Option Place
  | int n => some (.at (n * Binary64.scale))
  | float .nan => none
  | float (.infinite true) => some .below
  | float (.infinite false) => some .above
  | float (.finite negative quanta _) => some (.at (Binary64.signed negative quanta))

def compare? (x y : Number) : Option Ordering :=
  match x.place,y.place with
  | some p,some q => some (p.compare q)
  | _,_ => none

def lt (x y : Number) : Bool := compare? x y == some .lt
def gt (x y : Number) : Bool := compare? x y == some .gt
def eq (x y : Number) : Bool := compare? x y == some .eq
def le (x y : Number) : Bool := lt x y || eq x y
def ge (x y : Number) : Bool := gt x y || eq x y

def toFloat? : Number → Option Binary64
  | float x => some x
  | int n =>
    match Binary64.ofInt n with
    | .infinite _ => none
    | x => some x

def both? (f : Binary64 → Binary64 → Binary64) (x y : Number) : Option Number :=
  match x.toFloat?,y.toFloat? with
  | some a,some b => some (float (f a b))
  | _,_ => none

-- The operations answer nothing when an integer is too large for the float the result needs.

def add? : Number → Number → Option Number
  | int a,int b => some (int (a + b))
  | x,y => both? Binary64.add x y

def sub? : Number → Number → Option Number
  | int a,int b => some (int (a - b))
  | x,y => both? Binary64.sub x y

def mul? : Number → Number → Option Number
  | int a,int b => some (int (a * b))
  | x,y => both? Binary64.mul x y

-- Two integers are divided exactly and rounded once.
def div? : Number → Number → Option Number
  | int a,int b =>
    match Binary64.ofRatio (decide (a < 0) != decide (b < 0)) a.natAbs b.natAbs with
    | .infinite _ => none
    | x => some (float x)
  | x,y => both? Binary64.div x y

def abs : Number → Number
  | int n => int n.natAbs
  | float x => float x.abs

-- The later of two equal numbers gives way to the earlier.
def max (x y : Number) : Number := if gt y x then y else x

def min (x y : Number) : Number := if lt y x then y else x

def isZero : Number → Bool
  | int n => n == 0
  | float x => x.isZero

end Number
end OrderDesk
