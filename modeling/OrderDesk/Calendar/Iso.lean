import OrderDesk.Calendar.Timestamp
import OrderDesk.Text.Numerals
import OrderDesk.Text.Quoted

-- Reading the moments of stored records. Dates may be written as year, month and day or as year, week and
-- weekday, both with or without hyphens; any one character stands between date and time.
namespace OrderDesk

inductive IsoProblem where
  | unreadable (text : String)
  | yearRange (year : Nat)
  | monthRange
  | dayRange
  | hourRange
  | minuteRange
  | secondRange
  | offsetRange (micros : Int)
deriving DecidableEq

namespace IsoProblem

def spanText (micros : Int) : String :=
  let days := Int.fdiv micros dayMicros
  let rest := (Int.fmod micros dayMicros).toNat
  let parts := [("days",days),("seconds",(rest / secondMicros : Nat)),("microseconds",(rest % secondMicros : Nat))]
  let shown := (parts.filter fun part => part.2 != 0).map fun part => s!"{part.1}={part.2}"
  "datetime.timedelta(" ++ (if shown.isEmpty then "0" else ", ".intercalate shown) ++ ")"

def message : IsoProblem → String
  | unreadable text => "Invalid isoformat string: " ++ Text.quoted text
  | yearRange year => s!"year {year} is out of range"
  | monthRange => "month must be in 1..12"
  | dayRange => "day is out of range for month"
  | hourRange => "hour must be in 0..23"
  | minuteRange => "minute must be in 0..59"
  | secondRange => "second must be in 0..59"
  | offsetRange micros =>
    "offset must be a timedelta strictly between -timedelta(hours=24) and timedelta(hours=24), not " ++
      spanText micros ++ "."

end IsoProblem

namespace Iso

open Text (isAsciiDigit natOf)

def digits? (count : Nat) (text : List Char) : Option (Nat × List Char) :=
  let read := text.take count
  if read.length = count ∧ read.all isAsciiDigit then some (natOf read,text.drop count) else none

def charAt (text : List Char) (place : Nat) : Char := text.getD place (Char.ofNat 0)

-- Where the date ends. Weeks without hyphens are told from weeks with a weekday by the digits that follow.
def dateLength (text : List Char) : Nat :=
  if text.length = 7 then 7
  else if charAt text 4 == '-' then
    if charAt text 5 == 'W' then
      if charAt text 8 == '-' && !(text.length > 10 && isAsciiDigit (charAt text 10)) then 10 else 8
    else 10
  else if charAt text 4 == 'W' then
    let run := 7 + ((text.drop 7).takeWhile isAsciiDigit).length
    if run < 9 then run else if run % 2 = 0 then 7 else 8
  else 8

-- The weekday of a week date, Monday where none is written.
def weekdayOf (hyphens : Bool) (text : List Char) : Option Nat :=
  match hyphens,text with
  | _,[] => some 1
  | true,'-' :: rest => (digits? 1 rest).map (·.1)
  | true,_ => none
  | false,text => (digits? 1 text).map (·.1)

-- The date of a weekday in a week. Before the first day of the calendar no date is right.
def weekDate? (year week weekday : Nat) : Option Date :=
  if week = 0 ∨ week > Date.weeksIn year ∨ weekday = 0 ∨ weekday > 7 then none
  else
    match Date.firstMonday year + ((week - 1) * 7 + weekday - 1 : Nat) with
    | .ofNat n => some (if year = 0 then ⟨0,0,0⟩ else Date.ofNumber n)
    | .negSucc _ => some ⟨0,0,0⟩

def date? (text : List Char) : Option Date := do
  let (year,rest) ← digits? 4 text
  let hyphens := rest.head? == some '-'
  let rest := if hyphens then rest.drop 1 else rest
  match rest with
  | 'W' :: rest =>
    let (week,rest) ← digits? 2 rest
    weekDate? year week (← weekdayOf hyphens rest)
  | rest =>
    let (month,rest) ← digits? 2 rest
    let rest ← if hyphens then (if rest.head? == some '-' then some (rest.drop 1) else none) else some rest
    let (day,_) ← digits? 2 rest
    pure ⟨year,month,day⟩

-- A clock reading, and whether the text was read to its end.
structure Clock where
  hour : Nat
  minute : Nat
  second : Nat
  micros : Nat
  complete : Bool

-- A fraction of a second, to the sixth digit. Digits after that are skipped.
def fraction? (text : List Char) (followed : Bool) : Option (Nat × Bool) :=
  (digits? (min text.length 6) text).map fun (value,rest) =>
    (value * 10 ^ (6 - min text.length 6),(rest.dropWhile isAsciiDigit).isEmpty && !followed)

-- Hours, minutes and seconds as far as they go; `left` counts the parts still to come. A clock reading is
-- `followed` when an offset comes after it.
def clockParts (followed : Bool) : Nat → Option Bool → List Nat → List Char → Option Clock
  | 0,_,read,text => (fraction? text followed).map fun (micros,complete) => clock read micros complete
  | left + 1,colons,read,text =>
    match digits? 2 text with
    | none => none
    | some (value,rest) =>
      let read := read ++ [value]
      let colons := colons.getD (rest.head? == some ':')
      match rest with
      | [] => some (clock read 0 !followed)
      | [c] => if c.toNat < 128 then some (clock read 0 false) else none
      | c :: more =>
        if colons && c == ':' then clockParts followed left (some colons) read more
        else if c == '.' || c == ',' then
          (fraction? more followed).map fun (micros,complete) => clock read micros complete
        else if colons then none
        else clockParts followed left (some colons) read rest
where
  clock (read : List Nat) (micros : Nat) (complete : Bool) : Clock :=
    ⟨read.getD 0 0,read.getD 1 0,read.getD 2 0,micros,complete⟩

def clock? (text : List Char) (followed : Bool) : Option Clock := clockParts followed 3 none [] text

def Clock.sum (c : Clock) : Nat := (c.hour * 3600 + c.minute * 60 + c.second) * secondMicros + c.micros

-- The offset after a sign; less than a second of it is nothing.
def offset? (negative : Bool) (text : List Char) : Option Int :=
  match clock? text false with
  | some c =>
    if !c.complete then none
    else if c.sum / secondMicros = 0 then some 0
    else some (if negative then -(c.sum : Int) else c.sum)
  | none => none

def isOffsetMark (c : Char) : Bool := c == '+' || c == '-' || c == 'Z'

def time? (text : List Char) : Option (Clock × Option Int) :=
  match text with
  | [] => none
  | text =>
    let body := text.takeWhile fun c => !isOffsetMark c
    match text.drop body.length with
    | [] => (clock? body false).bind fun c => if c.complete then some (c,none) else none
    | ['Z'] => (clock? body true).map fun c => (c,some 0)
    | 'Z' :: _ => none
    | sign :: rest => (clock? body true).bind fun c => (offset? (sign == '-') rest).map fun o => (c,some o)

def fields? (text : List Char) : Option (Date × Clock × Option Int) :=
  if text.length < 7 then none
  else
    let size := dateLength text
    match date? (text.take size) with
    | none => none
    | some date =>
      match text.drop size with
      | [] => some (date,⟨0,0,0,0,true⟩,none)
      | _ :: rest => (time? rest).map fun (clock,offset) => (date,clock,offset)

def offsetOf : Option Int → Except IsoProblem (Option Offset)
  | none => .ok none
  | some micros => match Offset.ofMicros? micros with
    | some offset => .ok (some offset)
    | none => .error (.offsetRange micros)

def read (text : String) : Except IsoProblem Timestamp :=
  match fields? text.toList with
  | none => .error (.unreadable text)
  | some (date,clock,offset) =>
    match offsetOf offset with
    | .error problem => .error problem
    | .ok offset =>
      if date.year = 0 ∨ date.year > Date.lastYear then
        .error (if date.month = 0 then .monthRange else .yearRange date.year)
      else if date.month = 0 ∨ date.month > 12 then .error .monthRange
      else if date.day = 0 ∨ date.day > Date.daysIn date.year date.month then .error .dayRange
      else if clock.hour > 23 then .error .hourRange
      else if clock.minute > 59 then .error .minuteRange
      else if clock.second > 59 then .error .secondRange
      else
        match Timestamp.ofMicros? (date.number * dayMicros + clock.sum : Nat) offset with
        | some t => .ok t
        | none => .error (.yearRange date.year)

end Iso
end OrderDesk
