-- Dates of the Gregorian calendar, extended back to the year one. Day 0 is the first of January of that year.
namespace OrderDesk

structure Date where
  year : Nat
  month : Nat
  day : Nat
deriving DecidableEq

namespace Date

def lastYear : Nat := 9999

def isLeap (year : Nat) : Bool := year % 4 == 0 && (year % 100 != 0 || year % 400 == 0)

def daysIn (year : Nat) : Nat → Nat
  | 2 => if isLeap year then 29 else 28
  | 4 | 6 | 9 | 11 => 30
  | _ => 31

def daysBeforeYear (year : Nat) : Nat :=
  let past := year - 1
  past * 365 + past / 4 - past / 100 + past / 400

def daysBeforeMonth (year : Nat) : Nat → Nat
  | 0 | 1 => 0
  | month + 1 => daysBeforeMonth year month + daysIn year month

def number (d : Date) : Nat := daysBeforeYear d.year + daysBeforeMonth d.year d.month + (d.day - 1)

-- The day after the last of year 9999.
def span : Nat := daysBeforeYear (lastYear + 1)

-- Cycles of 400, 100, 4 and 1 years; the last cycle of its kind may have one day more.
def yearOf (number : Nat) : Nat × Nat :=
  let cycles := number / 146097
  let rest := number % 146097
  let centuries := min (rest / 36524) 3
  let rest := rest - centuries * 36524
  let fours := rest / 1461
  let rest := rest % 1461
  let years := min (rest / 365) 3
  (400 * cycles + 100 * centuries + 4 * fours + years + 1,rest - years * 365)

-- Goes on through the months while the days last.
def fromMonth (year : Nat) : Nat → Nat → Nat → Date
  | 0,month,rest => ⟨year,month,rest + 1⟩
  | more + 1,month,rest =>
    if rest < daysIn year month then ⟨year,month,rest + 1⟩
    else fromMonth year more (month + 1) (rest - daysIn year month)

def ofNumber (number : Nat) : Date :=
  let (year,rest) := yearOf number
  fromMonth year 11 1 rest

-- Monday is 0.
def weekday (number : Nat) : Nat := number % 7

-- The Monday of the week that holds the year's first Thursday; it may lie in the year before.
def firstMonday (year : Nat) : Int :=
  let first := daysBeforeYear year
  let day := weekday first
  if day > 3 then first - day + 7 else first - day

-- Years that start on a Thursday, and leap years that start on a Wednesday, have a week more.
def weeksIn (year : Nat) : Nat :=
  let day := weekday (daysBeforeYear year)
  if day == 3 || (day == 2 && isLeap year) then 53 else 52

end Date
end OrderDesk
