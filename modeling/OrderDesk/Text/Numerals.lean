import OrderDesk.Numeric.Decimal
import OrderDesk.Text.Blank

-- Numbers written as text. `readFloat?` is the rule for comparison values: blanks of any kind around the
-- number, digits of any script, single underscores between digits. `Field.float?` and `Field.whole` are the
-- rules for the fields of validated records.
namespace OrderDesk.Text

def isAsciiDigit (c : Char) : Bool := '0' ≤ c && c ≤ '9'

structure Numeral where
  digits : List Char
  exponent : Int

def splitSign : List Char → Bool × List Char
  | '-' :: rest => (true,rest)
  | '+' :: rest => (false,rest)
  | text => (false,text)

def natOf (digits : List Char) : Nat := digits.foldl (fun n d => n * 10 + (d.toNat - '0'.toNat)) 0

def exponentOf? : List Char → Option Int
  | [] => some 0
  | 'e' :: rest | 'E' :: rest =>
    let (negative,digits) := splitSign rest
    if digits.isEmpty || !digits.all isAsciiDigit then none
    else
      -- a longer exponent is as far out of range as this one
      let size := natOf ((digits.dropWhile (· == '0')).take 12)
      some (if negative then -(size : Int) else size)
  | _ => none

-- Digits with at most one point, at least one digit, and an exponent.
def numeral? (text : List Char) : Option Numeral :=
  let whole := text.takeWhile isAsciiDigit
  let rest := text.dropWhile isAsciiDigit
  let (fraction,rest) := match rest with
    | '.' :: rest => (rest.takeWhile isAsciiDigit,rest.dropWhile isAsciiDigit)
    | rest => ([],rest)
  if whole.isEmpty && fraction.isEmpty then none
  else (exponentOf? rest).map fun exponent => ⟨whole ++ fraction,exponent - fraction.length⟩

-- A float in plain ASCII, without blanks and underscores.
def plainFloat? (text : List Char) : Option Binary64 :=
  let (negative,body) := splitSign text
  let name := body.map Char.toLower
  if name == "inf".toList || name == "infinity".toList then some (.infinite negative)
  else if name == "nan".toList then some .nan
  else (numeral? body).map fun n => Decimal.read negative n.digits n.exponent

-- Drops underscores that stand between two digits; any other underscore refuses the text.
def joinDigits? (digitBefore : Bool) : List Char → Option (List Char)
  | [] => some []
  | '_' :: c :: rest =>
    if digitBefore && isAsciiDigit c then (joinDigits? true rest).map (c :: ·) else none
  | c :: rest => if c == '_' then none else (joinDigits? (isAsciiDigit c) rest).map (c :: ·)

def readFloat? (text : String) : Option Binary64 :=
  (joinDigits? false (plainDigits (trimBy isBlank text.toList))).bind plainFloat?

def readInt? (text : String) : Option Int :=
  match joinDigits? false (plainDigits (trimBy isBlank text.toList)) with
  | none => none
  | some chars =>
    let (negative,digits) := splitSign chars
    if digits.isEmpty || !digits.all isAsciiDigit then none
    else some (if negative then -(natOf digits : Int) else natOf digits)

namespace Field

def hasDouble : List Char → Bool
  | '_' :: '_' :: _ => true
  | _ :: rest => hasDouble rest
  | [] => false

-- Drops underscores, unless one stands at an end or beside another.
def dropUnderscores? (text : List Char) : Option (List Char) :=
  if !text.contains '_' || text.head? == some '_' || text.getLast? == some '_' || hasDouble text then none
  else some (text.filter (· != '_'))

def float? (text : String) : Option Binary64 :=
  match plainFloat? (trimBy isSpace text.toList) with
  | some x => some x
  | none => (dropUnderscores? text.toList).bind plainFloat?

inductive Whole where
  | value (n : Int)
  | unreadable
  | tooLong

-- Longer texts are refused unread.
def longest : Nat := 4300

-- Drops zeros in front of the last digit.
def dropLeadingZeros (text : List Char) : List Char :=
  if text.head? == some '0' then
    match text.dropWhile (fun c => c == '0' || c == '_') with
    | '.' :: rest => '0' :: '.' :: rest
    | [] => ['0']
    | rest => rest
  else text

-- Drops a point followed by zeros only.
def dropZeroFraction (text : List Char) : List Char :=
  match text.dropWhile (· != '.') with
  | '.' :: rest => if rest.all (· == '0') then text.takeWhile (· != '.') else text
  | _ => text

def whole (text : String) : Whole :=
  let trimmed := trimBy isSpace text.toList
  let (negative,body) := splitSign trimmed
  let body := dropZeroFraction (dropLeadingZeros body)
  let digits := (dropUnderscores? body).getD body
  if digits.length > longest then .tooLong
  else if digits.isEmpty || !digits.all isAsciiDigit then .unreadable
  else .value (if negative then -(natOf digits : Int) else natOf digits)

end Field
end OrderDesk.Text
