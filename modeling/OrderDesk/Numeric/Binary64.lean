-- Floating point numbers with 53 significant bits. Every finite value is a whole number of quanta of size `2 ^
-- -1074`, so exact arithmetic is arithmetic of integers and each operation is the exact result rounded once, a
-- tie going to the even neighbour.
namespace OrderDesk

-- Powers of counts are the built-in ones, also where other powers are known.
@[default_instance 20000]
instance countPow : Pow Nat Nat := instPowNat

namespace Binary64

-- Quanta in one.
def scale : Nat := 2 ^ 1074

-- The first count of quanta past the largest finite value.
def limit : Nat := 2 ^ 2098

-- Counts around `quanta` are held in steps of two to this power.
def spacing (quanta : Nat) : Nat := quanta.log2 - 52

def representable (quanta : Nat) : Bool :=
  decide (quanta < limit) && quanta % 2 ^ spacing quanta == 0

-- The nearest whole number to a quotient; a half goes to the even neighbour.
def roundDiv (numerator denominator : Nat) : Nat :=
  let quotient := numerator / denominator
  let rest := numerator % denominator
  if 2 * rest < denominator ∨ (2 * rest = denominator ∧ quotient % 2 = 0) then quotient else quotient + 1

-- The nearest count of quanta that 53 significant bits can hold.
def nearest (numerator denominator : Nat) : Nat :=
  let step := 2 ^ spacing (numerator / denominator)
  roundDiv numerator (denominator * step) * step

end Binary64

inductive Binary64 where
  | nan
  | infinite (negative : Bool)
  | finite (negative : Bool) (quanta : Nat) (held : Binary64.representable quanta = true)
deriving DecidableEq

namespace Binary64

-- A count that is not held is one past the largest finite value.
def ofQuanta (negative : Bool) (quanta : Nat) : Binary64 :=
  if held : representable quanta = true then .finite negative quanta held else .infinite negative

def ofRatio (negative : Bool) (numerator denominator : Nat) : Binary64 :=
  ofQuanta negative (nearest (numerator * scale) denominator)

def ofInt (n : Int) : Binary64 := ofRatio (decide (n < 0)) n.natAbs 1

def ofNat (n : Nat) : Binary64 := ofRatio false n 1

instance (n : Nat) : OfNat Binary64 n := ⟨ofNat n⟩

instance : Inhabited Binary64 := ⟨0⟩

def signed (negative : Bool) (quanta : Nat) : Int := if negative then -(quanta : Int) else quanta

def isNaN : Binary64 → Bool
  | nan => true
  | _ => false

def isFinite : Binary64 → Bool
  | finite .. => true
  | _ => false

def isZero : Binary64 → Bool
  | finite _ quanta _ => quanta == 0
  | _ => false

def neg : Binary64 → Binary64
  | nan => nan
  | infinite negative => infinite (!negative)
  | finite negative quanta held => finite (!negative) quanta held

def abs : Binary64 → Binary64
  | nan => nan
  | infinite _ => infinite false
  | finite _ quanta held => finite false quanta held

def add : Binary64 → Binary64 → Binary64
  | nan,_ | _,nan => nan
  | infinite a,infinite b => if a == b then infinite a else nan
  | infinite a,finite .. => infinite a
  | finite ..,infinite b => infinite b
  | finite a x _,finite b y _ =>
    let sum := signed a x + signed b y
    if sum = 0 then ofQuanta (a && b) 0 else ofQuanta (decide (sum < 0)) (nearest sum.natAbs 1)

def sub (x y : Binary64) : Binary64 := add x (neg y)

def mul : Binary64 → Binary64 → Binary64
  | nan,_ | _,nan => nan
  | infinite a,infinite b => infinite (a != b)
  | infinite a,finite b y _ => if y = 0 then nan else infinite (a != b)
  | finite a x _,infinite b => if x = 0 then nan else infinite (a != b)
  | finite a x _,finite b y _ => ofQuanta (a != b) (nearest (x * y) scale)

def div : Binary64 → Binary64 → Binary64
  | nan,_ | _,nan => nan
  | infinite _,infinite _ => nan
  | infinite a,finite b _ _ => infinite (a != b)
  | finite a _ _,infinite b => ofQuanta (a != b) 0
  | finite a x _,finite b y _ =>
    if y = 0 then (if x = 0 then nan else infinite (a != b))
    else ofQuanta (a != b) (nearest (x * scale) y)

instance : Neg Binary64 := ⟨neg⟩
instance : Add Binary64 := ⟨add⟩
instance : Sub Binary64 := ⟨sub⟩
instance : Mul Binary64 := ⟨mul⟩
instance : Div Binary64 := ⟨div⟩

-- The whole part and the fraction in quanta, toward minus infinity.
def floorParts : Binary64 → Option (Int × Nat)
  | finite negative quanta _ =>
    let z := signed negative quanta
    some (Int.fdiv z scale,(Int.fmod z scale).toNat)
  | _ => none

def toInt? (x : Binary64) : Option Int :=
  match x.floorParts with
  | some (whole,0) => some whole
  | _ => none

end Binary64
end OrderDesk
