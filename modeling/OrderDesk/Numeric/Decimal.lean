import OrderDesk.Numeric.Number

-- Numbers as decimal text. `Digits` is a decimal value by its digits and the place of its point; `shortest` has
-- the fewest digits that read back, `rounded` a given count of significant digits, and `Layout` says where
-- positional notation ends.
namespace OrderDesk
namespace Decimal

-- The value `0.d₁d₂… × 10 ^ point`, its digits as text without trailing zeros.
structure Digits where
  digits : List Char
  point : Int
deriving DecidableEq

def zeros (n : Nat) : List Char := List.replicate n '0'

def digitsOf (n : Nat) : List Char := Nat.toDigits 10 n

def dropTrailingZeros (digits : List Char) : List Char :=
  (digits.reverse.dropWhile (· == '0')).reverse

-- The value `coefficient × 10 ^ exponent`.
def Digits.ofScaled (coefficient : Nat) (exponent : Int) : Digits :=
  let digits := digitsOf coefficient
  ⟨dropTrailingZeros digits,digits.length + exponent⟩

-- The number of steps is bounded by the smallest positive value, near 10 ^ -324.
def leadingZeros (quanta : Nat) : Nat → Nat → Nat
  | 0,count => count
  | steps + 1,count =>
    if quanta * 10 ^ (count + 1) < Binary64.scale then leadingZeros quanta steps (count + 1) else count

def pointOf (quanta : Nat) : Int :=
  if quanta < Binary64.scale then -(leadingZeros quanta 400 0 : Int)
  else (digitsOf (quanta / Binary64.scale)).length

-- The value over `10 ^ exponent`, as a quotient.
def scaledRatio (quanta : Nat) (exponent : Int) : Nat × Nat :=
  (quanta * 10 ^ (-exponent).toNat,Binary64.scale * 10 ^ exponent.toNat)

-- The reals that round to `quanta`, in quarters of a quantum; the ends count when the significand is even.
structure Interval where
  low : Nat
  high : Nat
  closed : Bool

def Interval.around (quanta : Nat) : Interval :=
  let step := 2 ^ Binary64.spacing quanta
  let below := if quanta == 2 ^ quanta.log2 && Binary64.spacing quanta > 0 then step / 2 else step
  ⟨4 * quanta - 2 * below,4 * quanta + 2 * step,quanta / step % 2 == 0⟩

def Interval.holds (around : Interval) (coefficient : Nat) (exponent : Int) : Bool :=
  let value := coefficient * 4 * Binary64.scale * 10 ^ exponent.toNat
  let low := around.low * 10 ^ (-exponent).toNat
  let high := around.high * 10 ^ (-exponent).toNat
  if around.closed then low ≤ value && value ≤ high else low < value && value < high

-- The point of the grid of step `10 ^ exponent` that reads back, the nearer of two.
def onGrid? (quanta : Nat) (exponent : Int) : Option Nat :=
  let (numerator,denominator) := scaledRatio quanta exponent
  let below := numerator / denominator
  let around := Interval.around quanta
  match around.holds below exponent,around.holds (below + 1) exponent with
  | true,true => some (Binary64.roundDiv numerator denominator)
  | true,false => some below
  | false,true => some (below + 1)
  | false,false => none

-- Seventeen digits always read back.
def firstGrid (quanta : Nat) (point : Int) : Nat → Nat → Digits
  | 0,count => Digits.ofScaled ((scaledRatio quanta (point - count)).1 / (scaledRatio quanta (point - count)).2)
      (point - count)
  | more + 1,count =>
    match onGrid? quanta (point - count) with
    | some coefficient => Digits.ofScaled coefficient (point - count)
    | none => firstGrid quanta point more (count + 1)

-- The fewest digits that read back as the same positive value, and of those the nearest.
def shortest (quanta : Nat) : Digits := firstGrid quanta (pointOf quanta) 17 1

def rounded (quanta count : Nat) : Digits :=
  let exponent := pointOf quanta - count
  let (numerator,denominator) := scaledRatio quanta exponent
  Digits.ofScaled (Binary64.roundDiv numerator denominator) exponent

-- Positional notation is used for points after `lowest` and up to `highest`. `whole` follows the digits of a
-- whole number, `single` the only digit before an exponent.
structure Layout where
  lowest : Int
  highest : Int
  whole : String
  single : String

-- Floats are written positionally from 1e-4 up to 1e16, and always show a point or an exponent.
def Layout.exact : Layout := ⟨-4,16,".0",""⟩

-- Floats in text columns always show a point.
def Layout.column : Layout := ⟨-4,15,".0",".0"⟩

-- Displayed values keep six digits and show a point only before a fraction.
def Layout.compact : Layout := ⟨-4,6,"",""⟩

def exponentText (exponent : Int) : String :=
  let size := digitsOf exponent.natAbs
  (if exponent < 0 then "e-" else "e+") ++ String.ofList (zeros (2 - size.length) ++ size)

def Layout.write (layout : Layout) (value : Digits) : String :=
  let digits := value.digits
  if layout.lowest < value.point ∧ value.point ≤ layout.highest then
    if value.point ≤ 0 then String.ofList ('0' :: '.' :: zeros (-value.point).toNat ++ digits)
    else
      let whole := value.point.toNat
      if digits.length ≤ whole then String.ofList (digits ++ zeros (whole - digits.length)) ++ layout.whole
      else String.ofList (digits.take whole ++ '.' :: digits.drop whole)
  else
    let mantissa := match digits with
      | [] => ['0']
      | [d] => d :: layout.single.toList
      | d :: rest => d :: '.' :: rest
    String.ofList mantissa ++ exponentText (value.point - 1)

def withSign (negative : Bool) (text : String) : String := if negative then "-" ++ text else text

-- The text of a float from the text of a positive finite value and the text of zero.
def floatText (zero : String) (positive : Nat → String) : Binary64 → String
  | .nan => "nan"
  | .infinite negative => withSign negative "inf"
  | .finite negative quanta _ => withSign negative (if quanta = 0 then zero else positive quanta)

-- The text of a float that reads back as the same float.
def exact (x : Binary64) : String := floatText "0.0" (fun quanta => Layout.exact.write (shortest quanta)) x

def compact (x : Binary64) : String := floatText "0" (fun quanta => Layout.compact.write (rounded quanta 6)) x

def tenths (x : Binary64) : String :=
  floatText "0.0" (fun quanta =>
    let count := Binary64.roundDiv (quanta * 10) Binary64.scale
    s!"{count / 10}.{count % 10}") x

-- The float nearest to `digits × 10 ^ exponent`. Exponents far outside the range are cut short.
def read (negative : Bool) (digits : List Char) (exponent : Int) : Binary64 :=
  let digits := digits.dropWhile (· == '0')
  let coefficient := digits.foldl (fun n d => n * 10 + (d.toNat - '0'.toNat)) 0
  let point := exponent + digits.length
  if coefficient = 0 ∨ point < -400 then Binary64.ofQuanta negative 0
  else if point > 400 then .infinite negative
  else Binary64.ofRatio negative (coefficient * 10 ^ exponent.toNat) (10 ^ (-exponent).toNat)

end Decimal

def Number.text : Number → String
  | .int n => toString n
  | .float x => Decimal.exact x

end OrderDesk
