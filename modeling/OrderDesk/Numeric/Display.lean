import OrderDesk.Numeric.Decimal

-- Numbers shortened for readers: `1.5K`, `2.0M`, `3.1B`.
namespace OrderDesk.Number

def compact? (x : Number) : Option String := x.toFloat?.map Decimal.compact

def scaled? (x : Number) (unit : Nat) (letter : String) : Option String :=
  ((div? x (.int unit)).bind toFloat?).map fun quotient => Decimal.tenths quotient ++ letter

-- Nothing when an integer is too large to be displayed.
def short? (x : Number) : Option String :=
  let size := x.abs
  if size.ge (.int 1000000000) then scaled? x 1000000000 "B"
  else if size.ge (.int 1000000) then scaled? x 1000000 "M"
  else if size.ge (.int 1000) then scaled? x 1000 "K"
  else compact? x

end OrderDesk.Number

-- A float always has a short form.
def OrderDesk.Binary64.short (x : OrderDesk.Binary64) : String := ((OrderDesk.Number.float x).short?).getD ""
