import OrderDesk.Calendar.Timestamp
import OrderDesk.Validation.Fields

-- Moments in validated fields. They are given as text, as seconds since 1970, or as milliseconds when the
-- number is too large for seconds; a date alone is its midnight.
namespace OrderDesk.Calendar

open Checked Validation
open Text (isAsciiDigit natOf)

-- The seconds of the first of January 1970.
def epoch : Nat := Date.daysBeforeYear 1970 * 86400

-- Numbers beyond this are milliseconds.
def secondsLimit : Nat := 20000000000

-- The first second of 1600 and the last of 9999, counted from 1970.
def earliest : Int := -11676096000
def latest : Int := 253402300799

-- A moment by a count of seconds or milliseconds and further microseconds.
def ofCount (count : Int) (micros : Nat) : Except Reason Timestamp :=
  let total := if count.natAbs ≤ secondsLimit then count * secondMicros + micros else count * 1000 + micros
  let seconds := Int.fdiv total secondMicros
  if seconds < earliest then .error .momentTooEarly
  else if seconds > latest then .error .momentTooLate
  else match Timestamp.ofMicros? (total + epoch * secondMicros) none with
    | some t => .ok t
    | none => .error .momentTooLate

-- The whole part toward minus infinity, and the fraction of the size in microseconds.
def ofFloat : Binary64 → Except Reason Timestamp
  | .nan => .error .momentNaN
  | .infinite negative => .error (if negative then .momentTooEarly else .momentTooLate)
  | .finite negative quanta _ =>
    let whole := Int.fdiv (Binary64.signed negative quanta) Binary64.scale
    let rest := quanta % Binary64.scale
    let micros := (2 * rest * secondMicros + Binary64.scale) / (2 * Binary64.scale)
    ofCount whole micros

def dateAt (text : List Char) : Except DateProblem Date :=
  match text with
  | y₁ :: y₂ :: y₃ :: y₄ :: s₁ :: m₁ :: m₂ :: s₂ :: d₁ :: d₂ :: _ =>
    let year := natOf [y₁,y₂,y₃,y₄]
    let month := natOf [m₁,m₂]
    let day := natOf [d₁,d₂]
    if !([y₁,y₂,y₃,y₄].all isAsciiDigit) then .error .year
    else if s₁ != '-' then .error .separator
    else if !([m₁,m₂].all isAsciiDigit) then .error .month
    else if s₂ != '-' then .error .separator
    else if !([d₁,d₂].all isAsciiDigit) then .error .day
    else if month = 0 ∨ month > 12 then .error .monthRange
    else if day = 0 ∨ day > Date.daysIn year month then .error .dayRange
    else .ok ⟨year,month,day⟩
  | _ => .error .tooShort

def two? : List Char → Option (Nat × List Char)
  | a :: b :: rest => if isAsciiDigit a && isAsciiDigit b then some (natOf [a,b],rest) else none
  | _ => none

-- Digits after a point or comma, to the sixth.
def fraction? : List Char → Option (Nat × List Char)
  | c :: rest =>
    if c == '.' || c == ',' then
      let digits := rest.takeWhile isAsciiDigit
      let kept := digits.take 6
      if digits.isEmpty then none else some (natOf kept * 10 ^ (6 - kept.length),rest.drop digits.length)
    else some (0,c :: rest)
  | [] => some (0,[])

def clock? (text : List Char) : Option (Nat × List Char) :=
  match two? text with
  | some (hour,':' :: rest) =>
    match two? rest with
    | none => none
    | some (minute,rest) =>
      let whole := (hour * 60 + minute) * 60 * secondMicros
      if hour > 23 ∨ minute > 59 then none
      else match rest with
        | ':' :: rest =>
          match two? rest with
          | none => none
          | some (second,rest) =>
            if second > 59 then none
            else (fraction? rest).map fun (micros,rest) => (whole + second * secondMicros + micros,rest)
        | rest => some (whole,rest)
  | _ => none

def offsetMinutes? (negative : Bool) (text : List Char) : Option Offset :=
  match two? text with
  | none => none
  | some (hours,rest) =>
    match two? (if rest.head? == some ':' then rest.drop 1 else rest) with
    | some (minutes,[]) =>
      if minutes > 59 then none
      else
        let micros : Nat := (hours * 60 + minutes) * 60 * secondMicros
        Offset.ofMicros? (if negative then -(micros : Int) else micros)
    | _ => none

-- The offset at the end of a text; the minus sign of typography counts as one.
def offset? : List Char → Option (Option Offset)
  | [] => some none
  | ['Z'] | ['z'] => some (some .utc)
  | '+' :: rest => (offsetMinutes? false rest).map some
  | c :: rest => if c == '-' || c.toNat == 0x2212 then (offsetMinutes? true rest).map some else none

def ofParts? (date : Date) (micros : Nat) (offset : Option Offset) : Option Timestamp :=
  if date.year = 0 then none else Timestamp.ofMicros? (date.number * dayMicros + micros : Nat) offset

def isSeparator (c : Char) : Bool := c == 'T' || c == 't' || c == ' ' || c == '_'

def dateTime? (text : List Char) : Option Timestamp := do
  let date ← (dateAt text).toOption
  let separator ← text[10]?
  if !isSeparator separator then none
  let (micros,rest) ← clock? (text.drop 11)
  let offset ← offset? rest
  ofParts? date micros offset

-- The largest number of seconds that is read from text.
def countLimit : Nat := 2 ^ 63

def wholeCount? (text : List Char) : Option Int :=
  let (negative,digits) := Text.splitSign text
  let n := natOf digits
  if digits.isEmpty || !digits.all isAsciiDigit || n ≥ countLimit then none
  else some (if negative then -(n : Int) else n)

-- Seconds with a point and no exponent.
def pointCount? (text : List Char) : Option Binary64 :=
  let (_,digits) := Text.splitSign text
  if digits.all (fun c => isAsciiDigit c || c == '.') && digits.contains '.' then Text.plainFloat? text else none

def numeric? (text : List Char) : Option (Except Reason Timestamp) :=
  match wholeCount? text with
  | some n => some (ofCount n 0)
  | none => (pointCount? text).map ofFloat

-- A date alone. What is wrong with it is what is reported of a text that is no moment.
def midnight (text : List Char) : Except Reason Timestamp :=
  match dateAt text,wholeCount? text with
  | .ok date,_ =>
    if text.length > 10 then .error (.unreadableMoment .extra)
    else match ofParts? date 0 none with
      | some t => .ok t
      | none => .error (.unreadableMoment .dayRange)
  | .error _,some n =>
    match ofCount n 0 with
    | .error .momentTooEarly => .error (.unreadableMoment .tooEarly)
    | _ => .error (.unreadableMoment .tooLate)
  | .error problem,none => .error (.unreadableMoment problem)

def ofText (text : List Char) : Except Reason Timestamp :=
  match dateTime? text with
  | some t => .ok t
  | none =>
    match numeric? text with
    | some (.ok t) => .ok t
    | _ => midnight text

def ofJson : Json → Except Reason Timestamp
  | .str s => ofText s.toList
  | .int n =>
    if n.natAbs < countLimit then ofCount n 0
    else match (Number.int n).toFloat? with
      | some x => ofFloat x
      | none => .error .notMoment
  | .float x => ofFloat x
  | _ => .error .notMoment

-- A moment in universal time, where it does not say otherwise.
def assumeUtc (t : Timestamp) : Timestamp := {t with offset := some (t.offset.getD .utc)}

def moment : Check Timestamp := fun v =>
  match ofJson v with
  | .ok t => ok (assumeUtc t)
  | .error reason => refuse reason

end OrderDesk.Calendar
