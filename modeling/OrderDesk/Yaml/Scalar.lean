import OrderDesk.Calendar.Date
import OrderDesk.Json.Basic
import OrderDesk.Text.Numerals
import OrderDesk.Text.Split

-- What a plain scalar stands for. Truth values have many spellings; whole numbers may be binary, octal,
-- hexadecimal or in base sixty; a float needs a point, and a sign in its exponent; a date is neither text nor
-- number. All else is text.
namespace OrderDesk.Yaml

open Text

-- A word in lower case, in upper case, or with a capital letter.
def spelled (word : String) (text : List Char) : Bool :=
  text == word.toList || text == word.toList.map Char.toUpper ||
    text == (match word.toList with
      | c :: rest => c.toUpper :: rest
      | [] => [])

def truth? (text : List Char) : Option Bool :=
  if ["yes","true","on"].any fun word => spelled word text then some true
  else if ["no","false","off"].any fun word => spelled word text then some false
  else none

def isNothing (text : List Char) : Bool := text.isEmpty || text == ['~'] || spelled "null" text

def isGap (c : Char) : Bool := c == '_'

def digitsIn? (base : Nat) (text : List Char) : Option Nat :=
  let digits := text.filter fun c => !isGap c
  let value (c : Char) : Nat :=
    if c.isDigit then c.toNat - '0'.toNat else if c.isAlpha then c.toLower.toNat - 'a'.toNat + 10 else base
  if text.isEmpty || digits.any fun c => value c ≥ base then none
  else some (digits.foldl (fun n c => n * base + value c) 0)

def decimal? (text : List Char) : Option Nat :=
  match text with
  | ['0'] => some 0
  | c :: _ => if c.isDigit && c != '0' then digitsIn? 10 text else none
  | [] => none

def sixtieth? (text : List Char) : Option Nat :=
  match text with
  | [c] => if c.isDigit then some (natOf text) else none
  | [c,d] => if '0' ≤ c && c ≤ '5' && d.isDigit then some (natOf text) else none
  | _ => none

def inSixties (first : Nat) (rest : List (List Char)) : Option Nat :=
  rest.foldl (fun total part => total.bind fun n => (sixtieth? part).map (n * 60 + ·)) (some first)

def whole? (text : List Char) : Option Int :=
  let (negative,body) := splitSign text
  let size := match body with
    | '0' :: 'b' :: rest => digitsIn? 2 rest
    | '0' :: 'x' :: rest => digitsIn? 16 rest
    | '0' :: c :: rest => digitsIn? 8 (c :: rest)
    | body =>
      match splitChars ':' body with
      | [_] => decimal? body
      | first :: rest => (if first == ['0'] then none else decimal? first).bind fun n => inSixties n rest
      | [] => none
  size.map fun n => if negative then -(n : Int) else n

def isDigits (text : List Char) : Bool := text.all fun c => c.isDigit || isGap c

-- An exponent has a sign, and no gaps.
def exponentPart? (text : List Char) : Option (List Char) :=
  match text with
  | [] => some []
  | 'e' :: sign :: rest | 'E' :: sign :: rest =>
    if (sign == '+' || sign == '-') && !rest.isEmpty && rest.all Char.isDigit then some ('e' :: sign :: rest) else none
  | _ => none

-- Digits around a point; before the point there may be none, unless there is a sign.
def pointed? (text : List Char) : Option Binary64 :=
  let (_,body) := splitSign text
  let whole := body.takeWhile fun c => c.isDigit || isGap c
  match body.dropWhile fun c => c.isDigit || isGap c with
  | '.' :: rest =>
    let fraction := rest.takeWhile fun c => c.isDigit || isGap c
    let signed := body.length != text.length
    let starts (digits : List Char) := match digits with
      | c :: _ => c.isDigit
      | [] => false
    if starts whole || (whole.isEmpty && !signed && starts fraction) then
      (exponentPart? (rest.dropWhile fun c => c.isDigit || isGap c)).bind fun exponent =>
        plainFloat? ((text.takeWhile fun c => c == '+' || c == '-') ++
          (whole ++ '.' :: fraction).filter (fun c => !isGap c) ++ exponent)
    else none
  | _ => none

-- A number in base sixty with a fraction.
def pointedSixties? (text : List Char) : Option Binary64 :=
  let (negative,body) := splitSign text
  match splitChars '.' body with
  | [whole,fraction] =>
    match splitChars ':' whole with
    | first :: part :: rest =>
      if !isDigits fraction || !(first.take 1).all Char.isDigit then none
      else (digitsIn? 10 first).bind fun n => (inSixties n (part :: rest)).bind fun n =>
        plainFloat? ((if negative then ['-'] else []) ++ (toString n).toList ++ '.' :: fraction.filter fun c => !isGap c)
    | _ => none
  | _ => none

def named? (text : List Char) : Option Binary64 :=
  let (negative,body) := splitSign text
  match body with
  | '.' :: word =>
    if [".inf",".Inf",".INF"].any fun name => name.toList == '.' :: word then some (.infinite negative)
    else if body.length == text.length && [".nan",".NaN",".NAN"].any fun name => name.toList == '.' :: word then some .nan
    else none
  | _ => none

def real? (text : List Char) : Option Binary64 :=
  match pointed? text,pointedSixties? text with
  | some x,_ | none,some x => some x
  | none,none => named? text

def digits? (least most : Nat) (text : List Char) : Option (Nat × List Char) :=
  let digits := (text.take most).takeWhile Char.isDigit
  if digits.length < least then none else some (natOf digits,text.drop digits.length)

def after? (mark : Char) : List Char → Option (List Char)
  | c :: rest => if c == mark then some rest else none
  | [] => none

def isGapBlank (c : Char) : Bool := c == ' ' || c == '\t'

def afterDate? : List Char → Option (List Char)
  | 'T' :: rest | 't' :: rest => some rest
  | c :: rest => if isGapBlank c then some (rest.dropWhile isGapBlank) else none
  | [] => none

-- Hours of an offset, and minutes behind a colon.
def isOffset (text : List Char) : Bool :=
  match digits? 1 2 text with
  | some (_,[]) => true
  | some (_,':' :: rest) => (digits? 2 2 rest).any fun minutes => minutes.2.isEmpty
  | _ => false

def isZone : List Char → Bool
  | [] | ['Z'] => true
  | '+' :: rest | '-' :: rest => isOffset rest
  | _ => false

def clockParts? (text : List Char) : Option (List Nat) := do
  let (hour,rest) ← digits? 1 2 text
  let (minute,rest) ← digits? 2 2 (← after? ':' rest)
  let (second,rest) ← digits? 2 2 (← after? ':' rest)
  let rest := match rest with
    | '.' :: fraction => fraction.dropWhile Char.isDigit
    | rest => rest
  if isZone (rest.dropWhile isGapBlank) then some [hour,minute,second] else none

-- Year, month and day, and the parts of a time of day behind them. A date alone has its zeros written.
def momentParts? (text : List Char) : Option (List Nat) := do
  let (year,rest) ← digits? 4 4 text
  let (month,rest) ← digits? 1 2 (← after? '-' rest)
  let (day,rest) ← digits? 1 2 (← after? '-' rest)
  if rest.isEmpty then if text.length = 10 then some [year,month,day] else none
  else (clockParts? (← afterDate? rest)).map fun clock => [year,month,day] ++ clock

-- What keeps a moment from being one.
def momentProblem? : List Nat → Option String
  | year :: month :: day :: clock =>
    if year = 0 then some "year 0 is out of range"
    else if month = 0 ∨ month > 12 then some "month must be in 1..12"
    else if day = 0 ∨ day > Date.daysIn year month then some "day is out of range for month"
    else match clock with
      | [hour,minute,second] =>
        if hour > 23 then some "hour must be in 0..23"
        else if minute > 59 then some "minute must be in 0..59"
        else if second > 59 then some "second must be in 0..59"
        else none
      | _ => none
  | _ => none

-- A date has no form of its own here; as a list of its text it is neither a text nor a number.
def plainValue (text : List Char) : Json :=
  match truth? text with
  | some b => .bool b
  | none =>
    match real? text with
    | some x => .float x
    | none =>
      match whole? text with
      | some n => .int n
      | none =>
        if isNothing text then .null
        else if (momentParts? text).isSome then .arr [.str (String.ofList text)]
        else .str (String.ofList text)

end OrderDesk.Yaml
