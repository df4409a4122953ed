import OrderDesk.Calendar.Field
import OrderDesk.Proofs.Calendar.MomentText

-- The texts of moments in validated fields: a moment that was read from a field is read again from its text.
-- Offsets of fields are whole minutes.
namespace OrderDesk.Calendar
open Text Timestamp
open Checked Validation

def WholeMinutes (o : Offset) : Prop := o.micros.natAbs % (60 * secondMicros) = 0

-- What a field can hold: an offset, and that in minutes.
def Fielded (t : Timestamp) : Prop := ∃ o, t.offset = some o ∧ WholeMinutes o

theorem utc_minutes : WholeMinutes .utc := rfl

theorem two_written (n : Nat) (small : n < 100) (rest : List Char) :
    two? ((padded 2 n).toList ++ rest) = some (n,rest) := by
  have value := padded_value 2 n
  obtain ⟨a,b,written,first,second⟩ := padded_two n small
  rw [written] at value ⊢
  simp [two?,first,second,value]

theorem dateAt_written (d : Date) (real : d.Exists) (rest : List Char) :
    dateAt ((dateText d).toList ++ rest) = .ok d := by
  have days : d.day < 10 ^ 2 := by have := Date.daysIn_bound d.year d.month; have := real.day; omega
  have years : d.year < 10 ^ 4 := Nat.lt_of_le_of_lt real.year.2 (by decide)
  have months : ¬(d.month = 0 ∨ d.month > 12) := by have := real.month; omega
  have inMonth : ¬(d.day = 0 ∨ d.day > Date.daysIn d.year d.month) := by have := real.day; omega
  have yearValue := padded_value 4 d.year
  have monthValue := padded_value 2 d.month
  have dayValue := padded_value 2 d.day
  have yearDigits := padded_digits 4 d.year
  obtain ⟨y₁,y₂,y₃,y₄,year⟩ := padded_four d.year years
  obtain ⟨m₁,m₂,month,firstMonth,secondMonth⟩ := padded_two d.month (by omega)
  obtain ⟨d₁,d₂,day,firstDay,secondDay⟩ := padded_two d.day days
  have text : (dateText d).toList = [y₁,y₂,y₃,y₄,'-',m₁,m₂,'-',d₁,d₂] := by
    simp [dateText,String.toList_append,year,month,day]
  rw [year] at yearValue yearDigits
  rw [month] at monthValue
  rw [day] at dayValue
  simp only [text,List.cons_append,List.nil_append,dateAt,yearValue,monthValue,dayValue,yearDigits,
    List.all_cons,List.all_nil,firstMonth,secondMonth,firstDay,secondDay,if_neg months,if_neg inMonth]
  rfl

theorem fraction_written (micros : Nat) (part : micros < secondMicros) (rest : List Char)
    (stops : ∀ c, rest.head? = some c → isAsciiDigit c = false ∧ c ≠ '.' ∧ c ≠ ',') :
    fraction? ((fractionText micros).toList ++ rest) = some (micros,rest) := by
  by_cases whole : micros = 0
  · subst micros
    simp only [fractionText,if_pos,String.toList_empty,List.nil_append]
    cases rest with
    | nil => rfl
    | cons c rest => simp [fraction?,stops c rfl]
  · have size := padded_length 6 (by decide) (n:=micros) part
    have digits := List.all_eq_true.mp (padded_digits 6 micros)
    have value := padded_value 6 micros
    have shown : (fractionText micros).toList = '.' :: (padded 6 micros).toList := by
      simp [fractionText,whole]
    have taken : ((padded 6 micros).toList ++ rest).takeWhile isAsciiDigit = (padded 6 micros).toList := by
      rw [List.takeWhile_append_of_pos digits]
      cases rest with
      | nil => simp
      | cons c rest => simp [stops c rfl]
    have some : (padded 6 micros).toList.isEmpty = false := by
      cases written : (padded 6 micros).toList with
      | nil => simp [written] at size
      | cons => rfl
    have kept : (padded 6 micros).toList.take 6 = (padded 6 micros).toList := List.take_of_length_le (by omega)
    rw [shown,List.cons_append]
    simp [fraction?,taken,some,kept,value,size]

theorem clock_written (micros : Nat) (held : micros < dayMicros) (rest : List Char)
    (stops : ∀ c, rest.head? = some c → isAsciiDigit c = false ∧ c ≠ '.' ∧ c ≠ ',') :
    clock? ((clockText micros).toList ++ rest) = some (micros,rest) := by
  have text : (clockText micros).toList = (padded 2 (micros / secondMicros / 3600)).toList ++ ':' ::
      ((padded 2 (micros / secondMicros / 60 % 60)).toList ++ ':' ::
        ((padded 2 (micros / secondMicros % 60)).toList ++ (fractionText (micros % secondMicros)).toList)) := by
    simp [clockText,String.toList_append]
  have hours : micros / secondMicros / 3600 < 24 := (Iso.parts_bounds micros held true).1
  have readFraction := fraction_written (micros % secondMicros) (Nat.mod_lt _ (by decide)) rest stops
  have range : ¬(micros / secondMicros / 3600 > 23 ∨ micros / secondMicros / 60 % 60 > 59) := by omega
  have seconds : ¬(micros / secondMicros % 60 > 59) := by omega
  rw [text]
  simp only [List.append_assoc,List.cons_append,clock?]
  rw [two_written _ (by omega)]
  simp only []
  rw [two_written _ (by omega)]
  simp only [if_neg range]
  rw [two_written _ (by omega)]
  simp only [if_neg seconds,readFraction,Option.map_some,Option.some.injEq,Prod.mk.injEq,and_true]
  simp only [secondMicros]
  omega

theorem offset_written (o : Offset) (whole : WholeMinutes o) :
    ∃ sign rest, (offsetText o).toList = sign :: rest ∧ isAsciiDigit sign = false ∧ sign ≠ '.' ∧ sign ≠ ',' ∧
      offset? (sign :: rest) = some (some o) := by
  have held := o.held
  have size : ((o.micros.natAbs / secondMicros / 3600 * 60 + o.micros.natAbs / secondMicros / 60 % 60) * 60 *
      secondMicros : Nat) = o.micros.natAbs := by
    simp only [WholeMinutes,secondMicros] at whole ⊢
    omega
  have bounds : o.micros.natAbs / secondMicros / 3600 < 100 ∧ ¬ o.micros.natAbs / secondMicros / 60 % 60 > 59 := by
    simp only [dayMicros,secondMicros] at held ⊢
    omega
  have read : offsetMinutes? (decide (o.micros < 0)) ((padded 2 (o.micros.natAbs / secondMicros / 3600)).toList ++
      ':' :: (padded 2 (o.micros.natAbs / secondMicros / 60 % 60)).toList) = some o := by
    have readMinute := two_written (o.micros.natAbs / secondMicros / 60 % 60) (by omega) []
    rw [List.append_nil] at readMinute
    have signed : (if decide (o.micros < 0) = true then -(o.micros.natAbs : Int) else o.micros.natAbs) = o.micros := by
      split
      · rename_i negative
        have := of_decide_eq_true negative
        omega
      · rename_i positive
        have := of_decide_eq_false (Bool.not_eq_true _ ▸ positive)
        omega
    simp only [offsetMinutes?,two_written _ bounds.1,List.head?_cons,beq_self_eq_true,if_true,List.drop_succ_cons,
      List.drop_zero,readMinute,if_neg bounds.2,size,signed]
    exact Offset.ofMicros_micros o
  refine ⟨if o.micros < 0 then '-' else '+',(padded 2 (o.micros.natAbs / secondMicros / 3600)).toList ++ ':' ::
    (padded 2 (o.micros.natAbs / secondMicros / 60 % 60)).toList,?_,?_,?_,?_,?_⟩
  · have sign : (if o.micros < 0 then "-" else "+").toList = [if o.micros < 0 then '-' else '+'] := by
      split <;> rfl
    simp [offsetText,show o.micros.natAbs % (60 * secondMicros) = 0 from whole,String.toList_append,sign]
  · split <;> decide
  · split <;> decide
  · split <;> decide
  · by_cases negative : o.micros < 0
    · rw [decide_eq_true negative] at read
      simp [negative,offset?,read]
    · rw [decide_eq_false negative] at read
      simp [negative,offset?,read]

-- The end of a field's text.
theorem ending_written (o : Offset) (whole : WholeMinutes o) : ∃ sign rest,
    (if o.micros = 0 then "Z" else offsetText o).toList = sign :: rest ∧ isAsciiDigit sign = false ∧ sign ≠ '.' ∧
      sign ≠ ',' ∧ offset? (sign :: rest) = some (some o) := by
  by_cases zulu : o.micros = 0
  · have same : o = .utc := by
      cases o
      simp only at zulu
      subst zulu
      rfl
    exact ⟨'Z',[],by rw [if_pos zulu]; rfl,by decide,by decide,by decide,by rw [same]; rfl⟩
  · rw [if_neg zulu]
    exact offset_written o whole

theorem dateTime_written (t : Timestamp) (fielded : Fielded t) : dateTime? t.fieldText.toList = some t := by
  obtain ⟨o,offset,whole⟩ := fielded
  obtain ⟨sign,rest,ending,stops⟩ := ending_written o whole
  have date := dateAt_written t.date t.date_exists
  have clock := clock_written t.clock t.clock_bound (sign :: rest) (by
    intro c head
    cases head
    exact ⟨stops.1,stops.2.1,stops.2.2.1⟩)
  have size := (Iso.date_written t.date t.date_exists).1
  have text : t.fieldText.toList = (dateText t.date).toList ++ 'T' :: ((clockText t.clock).toList ++ sign :: rest) := by
    simp [fieldText,offset,localText,String.toList_append,ending]
  have tenth : t.fieldText.toList[10]? = some 'T' := by
    rw [text,List.getElem?_append_right (by omega),size]
    rfl
  have later : t.fieldText.toList.drop 11 = (clockText t.clock).toList ++ sign :: rest := by
    rw [text,show 11 = (dateText t.date).toList.length + 1 by omega,List.drop_append]
    simp
  have made : ofParts? t.date t.clock (some o) = some t := by
    have year : ¬ t.date.year = 0 := by have := t.date_exists.year; omega
    rw [ofParts?,if_neg year,Timestamp.date_clock,← offset]
    exact Timestamp.ofMicros_micros t
  rw [dateTime?,tenth,later,text,date]
  simp [isSeparator,Except.toOption,clock,stops.2.2.2,made]

theorem moment_written (t : Timestamp) (fielded : Fielded t) : moment (.str t.fieldText) = ok t := by
  obtain ⟨o,offset,-⟩ := id fielded
  have same : assumeUtc t = t := by
    cases t
    simp only at offset
    subst offset
    rfl
  simp [moment,ofJson,ofText,dateTime_written t fielded,same]

-- Where offsets of fields come from: only the text of a date and time has one.

theorem offsetMinutes_whole {negative : Bool} {text : List Char} {o : Offset}
    (read : offsetMinutes? negative text = some o) : WholeMinutes o := by
  unfold offsetMinutes? at read
  split at read
  · cases read
  · split at read
    · split at read
      · cases read
      · have size := Offset.ofMicros_same read
        simp only [WholeMinutes,size,secondMicros]
        split <;> omega
    · cases read

theorem offset_whole {text : List Char} {o : Offset} (read : offset? text = some (some o)) : WholeMinutes o := by
  unfold offset? at read
  split at read
  · cases read
  · cases read; exact utc_minutes
  · cases read; exact utc_minutes
  · obtain ⟨minutes,found,same⟩ := Option.map_eq_some_iff.mp read
    cases same
    exact offsetMinutes_whole found
  · split at read
    · obtain ⟨minutes,found,same⟩ := Option.map_eq_some_iff.mp read
      cases same
      exact offsetMinutes_whole found
    · cases read

-- No offset, or one in minutes.
def Plain (t : Timestamp) : Prop := ∀ o, t.offset = some o → WholeMinutes o

theorem plain_none {micros : Int} {t : Timestamp} (made : Timestamp.ofMicros? micros none = some t) : Plain t := by
  intro o offset
  rw [ofMicros_offset made] at offset
  cases offset

theorem ofCount_plain {count : Int} {micros : Nat} {t : Timestamp} (made : ofCount count micros = .ok t) : Plain t := by
  simp only [ofCount] at made
  generalize (if count.natAbs ≤ secondsLimit then count * secondMicros + (micros : Int) else count * 1000 + micros) = total
    at made
  split at made
  · cases made
  · split at made
    · cases made
    · split at made
      · cases made
        exact plain_none ‹_›
      · cases made

theorem ofFloat_plain {x : Binary64} {t : Timestamp} (made : ofFloat x = .ok t) : Plain t := by
  cases x with
  | nan => cases made
  | infinite negative => cases made
  | finite negative quanta held => exact ofCount_plain made

theorem ofParts_offset {date : Date} {micros : Nat} {offset : Option Offset} {t : Timestamp}
    (made : ofParts? date micros offset = some t) : t.offset = offset := by
  unfold ofParts? at made
  split at made
  · cases made
  · exact ofMicros_offset made

theorem dateTime_plain {text : List Char} {t : Timestamp} (made : dateTime? text = some t) : Plain t := by
  intro o offset
  simp only [dateTime?,Option.bind_eq_bind,Option.bind_eq_some_iff] at made
  obtain ⟨date,-,separator,-,made⟩ := made
  split at made
  · simp at made
  · simp only [Option.bind_eq_some_iff] at made
    obtain ⟨⟨micros,rest⟩,-,found,read,made⟩ := made
    rw [ofParts_offset made] at offset
    cases offset
    exact offset_whole read

theorem midnight_plain {text : List Char} {t : Timestamp} (made : midnight text = .ok t) : Plain t := by
  unfold midnight at made
  split at made
  · split at made
    · cases made
    · split at made
      · rename_i found
        cases made
        intro o offset
        rw [ofParts_offset found] at offset
        cases offset
      · cases made
  · split at made <;> cases made
  · cases made

theorem ofText_plain {text : List Char} {t : Timestamp} (made : ofText text = .ok t) : Plain t := by
  unfold ofText at made
  split at made
  · cases made
    exact dateTime_plain ‹_›
  · split at made
    · rename_i read
      cases made
      unfold numeric? at read
      split at read
      · exact ofCount_plain (Option.some.inj read)
      · obtain ⟨x,-,count⟩ := Option.map_eq_some_iff.mp read
        exact ofFloat_plain count
    · exact midnight_plain made

theorem ofJson_plain {v : Json} {t : Timestamp} (made : ofJson v = .ok t) : Plain t := by
  cases v with
  | str s => exact ofText_plain made
  | int n =>
    simp only [ofJson] at made
    split at made
    · exact ofCount_plain made
    · split at made
      · exact ofFloat_plain made
      · cases made
  | float x => exact ofFloat_plain made
  | null => cases made
  | bool b => cases made
  | arr items => cases made
  | obj fields => cases made

theorem moment_fielded {v : Json} {t : Timestamp} (made : moment v = ok t) : Fielded t := by
  unfold moment at made
  split at made
  · rename_i read found
    cases made
    refine ⟨read.offset.getD .utc,rfl,?_⟩
    cases offset : read.offset with
    | none => exact utc_minutes
    | some o => exact ofJson_plain found o offset
  · cases made

end OrderDesk.Calendar
