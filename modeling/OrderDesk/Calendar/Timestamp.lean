import OrderDesk.Calendar.Date

-- Moments of local time, to the microsecond, with or without an offset from universal time. Two moments can be
-- compared when both have an offset or neither has one. The offset is a constant: zones whose offset depends on
-- the date, or on which of two equal clock readings is meant, are left out.
namespace OrderDesk

def secondMicros : Nat := 1000000
def dayMicros : Nat := 86400 * secondMicros

-- Less than a day to either side.
structure Offset where
  micros : Int
  held : micros.natAbs < dayMicros
deriving DecidableEq

-- Local microseconds since the first of January of the year one, up to the end of year 9999.
structure Timestamp where
  micros : Nat
  offset : Option Offset
  held : micros < Date.span * dayMicros
deriving DecidableEq

namespace Offset

def utc : Offset := ⟨0,by decide⟩

def ofMicros? (micros : Int) : Option Offset :=
  if held : micros.natAbs < dayMicros then some ⟨micros,held⟩ else none

end Offset

namespace Timestamp

def ofMicros? (micros : Int) (offset : Option Offset) : Option Timestamp :=
  match micros with
  | .ofNat n => if held : n < Date.span * dayMicros then some ⟨n,offset,held⟩ else none
  | .negSucc _ => none

def origin : Timestamp := ⟨0,some .utc,by decide +kernel⟩

instance : Inhabited Timestamp := ⟨origin⟩

-- Microseconds of universal time; of local time, where there is no offset.
def instant (t : Timestamp) : Int := t.micros - (t.offset.map Offset.micros).getD 0

-- Only moments of one kind can be compared.
def comparable (a b : Timestamp) : Bool := a.offset.isSome == b.offset.isSome

def since? (a b : Timestamp) : Option Int := if comparable a b then some (a.instant - b.instant) else none

-- Later by some microseconds, while the calendar lasts.
def shift? (t : Timestamp) (micros : Int) : Option Timestamp := ofMicros? (t.micros + micros) t.offset

def date (t : Timestamp) : Date := Date.ofNumber (t.micros / dayMicros)

def clock (t : Timestamp) : Nat := t.micros % dayMicros

def padded (width n : Nat) : String :=
  let digits := Nat.toDigits 10 n
  String.ofList (List.replicate (width - digits.length) '0' ++ digits)

def fractionText (micros : Nat) : String := if micros = 0 then "" else "." ++ padded 6 micros

def dateText (d : Date) : String := padded 4 d.year ++ "-" ++ padded 2 d.month ++ "-" ++ padded 2 d.day

def clockText (micros : Nat) : String :=
  let seconds := micros / secondMicros
  padded 2 (seconds / 3600) ++ ":" ++ padded 2 (seconds / 60 % 60) ++ ":" ++ padded 2 (seconds % 60) ++
    fractionText (micros % secondMicros)

-- Hours and minutes; seconds and less only where there are any.
def offsetText (o : Offset) : String :=
  let size := o.micros.natAbs
  let seconds := size / secondMicros
  let sign := if o.micros < 0 then "-" else "+"
  let minutes := sign ++ padded 2 (seconds / 3600) ++ ":" ++ padded 2 (seconds / 60 % 60)
  if size % (60 * secondMicros) = 0 then minutes
  else minutes ++ ":" ++ padded 2 (seconds % 60) ++ fractionText (size % secondMicros)

def localText (t : Timestamp) : String := dateText t.date ++ "T" ++ clockText t.clock

-- The text of stored records.
def text (t : Timestamp) : String := t.localText ++ (t.offset.map offsetText).getD ""

-- The text of validated fields, with `Z` for universal time.
def fieldText (t : Timestamp) : String :=
  match t.offset with
  | none => t.localText
  | some o => t.localText ++ if o.micros = 0 then "Z" else offsetText o

end Timestamp
end OrderDesk
