import OrderDesk.Proofs.Calendar.Dates
import OrderDesk.Proofs.Calendar.Digits

-- The texts of stored moments: a moment is read back from its text, unless its offset is some part of a second
-- and no more. No moment that was read from a text has such an offset.
namespace OrderDesk
open Text Timestamp

namespace Offset

-- The reader of stored moments takes an offset of less than a second for none at all.
def Legible (o : Offset) : Prop := o.micros = 0 ∨ secondMicros ≤ o.micros.natAbs

theorem utc_legible : Legible utc := Or.inl rfl

-- An offset as it is read from its text.
def told (o : Offset) : Offset := if o.micros.natAbs < secondMicros then utc else o

theorem told_legible {o : Offset} (legible : o.Legible) : o.told = o := by
  obtain ⟨micros,held⟩ := o
  rcases legible with zero | large
  · cases zero
    rfl
  · exact if_neg (Nat.not_lt.mpr large)

theorem legible_told {o : Offset} (same : o.told = o) : o.Legible := by
  unfold told at same
  split at same
  · rw [← same]
    exact utc_legible
  · rename_i long
    exact Or.inr (Nat.not_lt.mp long)

theorem ofMicros_micros (o : Offset) : ofMicros? o.micros = some o := by
  simp [ofMicros?,o.held]

theorem ofMicros_same {micros : Int} {o : Offset} (made : ofMicros? micros = some o) : o.micros = micros := by
  unfold ofMicros? at made
  split at made
  · cases made; rfl
  · cases made

end Offset

namespace Timestamp

-- Moments that a text holds as they are.
def Legible (t : Timestamp) : Prop := ∀ o, t.offset = some o → o.Legible

theorem utc_legible {t : Timestamp} (universal : t.offset = some .utc) : t.Legible := by
  intro o same
  cases universal.symm.trans same
  exact Offset.utc_legible

-- A moment as it is read from its text.
def told (t : Timestamp) : Timestamp := {t with offset := t.offset.map Offset.told}

theorem told_legible {t : Timestamp} (legible : t.Legible) : t.told = t := by
  obtain ⟨micros,offset,held⟩ := t
  cases offset with
  | none => rfl
  | some o =>
    have same := Offset.told_legible (legible o rfl)
    simp [told,same]

theorem legible_told {t : Timestamp} (same : t.told = t) : t.Legible := by
  intro o own
  have kept : t.offset.map Offset.told = t.offset := congrArg offset same
  rw [own] at kept
  exact Offset.legible_told (Option.some.inj kept)

-- Half a second ahead of universal time.
def ahead : Timestamp := {origin with offset := some ⟨500000,by decide⟩}

theorem ofMicros_micros (t : Timestamp) : ofMicros? (t.micros : Nat) t.offset = some t := by
  change (if held : t.micros < Date.span * dayMicros then some ⟨t.micros,t.offset,held⟩ else none) = some t
  rw [dif_pos t.held]

theorem ofMicros_offset {micros : Int} {offset : Option Offset} {t : Timestamp} (made : ofMicros? micros offset = some t) :
    t.offset = offset := by
  unfold ofMicros? at made
  split at made
  · split at made
    · cases made; rfl
    · cases made
  · cases made

theorem date_exists (t : Timestamp) : t.date.Exists := by
  refine Date.ofNumber_exists _ ?_
  exact Nat.div_lt_of_lt_mul (by rw [Nat.mul_comm]; exact t.held)

theorem date_clock (t : Timestamp) : t.date.number * dayMicros + t.clock = t.micros := by
  rw [date,Date.number_roundtrip,clock]
  exact Nat.div_add_mod' t.micros dayMicros

theorem clock_bound (t : Timestamp) : t.clock < dayMicros := Nat.mod_lt _ (by decide)

end Timestamp

theorem padded_two (n : Nat) (small : n < 100) : ∃ a b, (padded 2 n).toList = [a,b] ∧
    isAsciiDigit a = true ∧ isAsciiDigit b = true := by
  have size := padded_length 2 (by decide) small
  have digits := padded_digits 2 n
  match written : (padded 2 n).toList with
  | [a,b] => exact ⟨a,b,rfl,by simpa [written] using digits⟩
  | [] | [_] | _ :: _ :: _ :: _ => simp [written] at size

theorem padded_four (n : Nat) (small : n < 10000) : ∃ a b c e, (padded 4 n).toList = [a,b,c,e] := by
  have size := padded_length 4 (by decide) small
  match written : (padded 4 n).toList with
  | [a,b,c,e] => exact ⟨a,b,c,e,rfl⟩
  | [] | [_] | [_,_] | [_,_,_] | _ :: _ :: _ :: _ :: _ :: _ => simp [written] at size

theorem digit_not (c other : Char) (digit : isAsciiDigit c = true) (letter : isAsciiDigit other = false) :
    c ≠ other := by
  rintro rfl
  rw [digit] at letter
  cases letter

namespace Iso

theorem date_written (d : Date) (real : d.Exists) : (dateText d).toList.length = 10 ∧
    charAt (dateText d).toList 4 = '-' ∧ charAt (dateText d).toList 5 ≠ 'W' ∧
    date? (dateText d).toList = some d := by
  have months := real.month
  have days : d.day < 10 ^ 2 := by have := Date.daysIn_bound d.year d.month; have := real.day; omega
  have years : d.year < 10 ^ 4 := Nat.lt_of_le_of_lt real.year.2 (by decide)
  have readYear := digits_padded 4 (by decide) years ('-' :: (padded 2 d.month).toList ++ '-' :: (padded 2 d.day).toList)
  have readMonth := digits_padded 2 (by decide) (n:=d.month) (by omega) ('-' :: (padded 2 d.day).toList)
  have readDay := digits_padded 2 (by decide) days []
  obtain ⟨y₁,y₂,y₃,y₄,year⟩ := padded_four d.year years
  obtain ⟨m₁,m₂,month,digit,_⟩ := padded_two d.month (by omega)
  obtain ⟨d₁,d₂,day,_,_⟩ := padded_two d.day days
  have text : (dateText d).toList = [y₁,y₂,y₃,y₄,'-',m₁,m₂,'-',d₁,d₂] := by
    simp [dateText,String.toList_append,year,month,day]
  have notWeek := digit_not m₁ 'W' digit (by decide)
  simp only [year,month,day,List.cons_append,List.nil_append,List.append_nil] at readYear readMonth readDay
  rw [text]
  refine ⟨rfl,rfl,notWeek,?_⟩
  simp [date?,readYear,readMonth,readDay,notWeek]

theorem clock_minutes (hour minute : Nat) (hours : hour < 100) (minutes : minute < 100) (followed : Bool) :
    clock? ((padded 2 hour).toList ++ ':' :: (padded 2 minute).toList) followed =
      some ⟨hour,minute,0,0,!followed⟩ := by
  have readHour := digits_padded 2 (by decide) hours (':' :: (padded 2 minute).toList)
  have readMinute := digits_padded 2 (by decide) minutes []
  obtain ⟨m₁,m₂,shown,_,_⟩ := padded_two minute minutes
  rw [List.append_nil] at readMinute
  rw [shown] at readHour readMinute ⊢
  simp [clock?,clockParts,clockParts.clock,readHour,readMinute]

theorem clock_fraction (hour minute second micros : Nat) (hours : hour < 100) (minutes : minute < 100)
    (seconds : second < 100) (part : micros < secondMicros) (followed : Bool) :
    clock? ((padded 2 hour).toList ++ ':' :: ((padded 2 minute).toList ++ ':' :: ((padded 2 second).toList ++
      (fractionText micros).toList))) followed = some ⟨hour,minute,second,micros,!followed⟩ := by
  have readHour := digits_padded 2 (by decide) hours
    (':' :: ((padded 2 minute).toList ++ ':' :: ((padded 2 second).toList ++ (fractionText micros).toList)))
  have readMinute := digits_padded 2 (by decide) minutes
    (':' :: ((padded 2 second).toList ++ (fractionText micros).toList))
  have readSecond := digits_padded 2 (by decide) seconds (fractionText micros).toList
  obtain ⟨m₁,m₂,shownMinute,_,_⟩ := padded_two minute minutes
  obtain ⟨s₁,s₂,shownSecond,_,_⟩ := padded_two second seconds
  have start : clock? ((padded 2 hour).toList ++ ':' :: ((padded 2 minute).toList ++ ':' ::
      ((padded 2 second).toList ++ (fractionText micros).toList))) followed =
      clockParts followed 1 (some true) [hour,minute] ((padded 2 second).toList ++ (fractionText micros).toList) := by
    simp only [shownMinute,shownSecond,List.cons_append,List.nil_append] at readHour readMinute ⊢
    simp [clock?,clockParts,readHour,readMinute]
  rw [start,clockParts]
  simp only [readSecond]
  by_cases whole : micros = 0
  · subst micros
    simp [fractionText,clockParts.clock]
  · have size := padded_length 6 (by decide) (n:=micros) part
    have readMicros := digits_padded 6 (by decide) (n:=micros) part []
    rw [List.append_nil] at readMicros
    have shown : (fractionText micros).toList = '.' :: (padded 6 micros).toList := by
      simp [fractionText,whole]
    have fraction : fraction? (padded 6 micros).toList followed = some (micros,!followed) := by
      simp [fraction?,size,readMicros]
    rw [shown]
    cases written : (padded 6 micros).toList with
    | nil => simp [written] at size
    | cons c rest => simp [← written,fraction,clockParts.clock]

-- A time of day in its parts.
def parts (micros : Nat) (complete : Bool) : Clock :=
  let seconds := micros / secondMicros
  ⟨seconds / 3600,seconds / 60 % 60,seconds % 60,micros % secondMicros,complete⟩

theorem parts_sum (micros : Nat) (complete : Bool) : (parts micros complete).sum = micros := by
  simp only [parts,Clock.sum,secondMicros]
  omega

theorem parts_bounds (micros : Nat) (held : micros < dayMicros) (complete : Bool) :
    (parts micros complete).hour < 24 ∧ (parts micros complete).minute < 60 ∧
      (parts micros complete).second < 60 := by
  simp only [parts,dayMicros,secondMicros] at held ⊢
  omega

theorem clock_written (micros : Nat) (held : micros < dayMicros) (followed : Bool) :
    clock? (clockText micros).toList followed = some (parts micros (!followed)) := by
  have bounds := parts_bounds micros held (!followed)
  have read := clock_fraction (micros / secondMicros / 3600) (micros / secondMicros / 60 % 60)
    (micros / secondMicros % 60) (micros % secondMicros) (by simp only [parts] at bounds; omega) (by omega)
    (by omega) (Nat.mod_lt _ (by decide)) followed
  have text : (clockText micros).toList = (padded 2 (micros / secondMicros / 3600)).toList ++ ':' ::
      ((padded 2 (micros / secondMicros / 60 % 60)).toList ++ ':' ::
        ((padded 2 (micros / secondMicros % 60)).toList ++ (fractionText (micros % secondMicros)).toList)) := by
    simp [clockText,String.toList_append]
  rw [text,read]
  rfl

theorem digits_unmarked (width n : Nat) : ∀ c ∈ (padded width n).toList, isOffsetMark c = false := by
  intro c member
  have digit := List.all_eq_true.mp (padded_digits width n) c member
  have plus := digit_not c '+' digit (by decide)
  have minus := digit_not c '-' digit (by decide)
  have zulu := digit_not c 'Z' digit (by decide)
  simp [isOffsetMark,plus,minus,zulu]

theorem clock_unmarked (micros : Nat) : ∀ c ∈ (clockText micros).toList, isOffsetMark c = false := by
  intro c member
  simp only [clockText,fractionText,String.toList_append,List.mem_append] at member
  rcases member with (((((hour | colon) | minute) | colon) | second) | fraction)
  · exact digits_unmarked _ _ c hour
  · simp at colon; subst c; rfl
  · exact digits_unmarked _ _ c minute
  · simp at colon; subst c; rfl
  · exact digits_unmarked _ _ c second
  · split at fraction
    · simp at fraction
    · simp only [String.toList_append,List.mem_append] at fraction
      rcases fraction with point | micros
      · simp at point; subst c; rfl
      · exact digits_unmarked _ _ c micros

theorem offset_written (o : Offset) : ∃ sign rest, (offsetText o).toList = sign :: rest ∧
    isOffsetMark sign = true ∧ sign ≠ 'Z' ∧ offset? (sign == '-') rest = some o.told.micros := by
  have held := o.held
  have sizes : ∀ c : Clock, c.complete = true → c.sum = o.micros.natAbs →
      (if !c.complete then none else if c.sum / secondMicros = 0 then some 0
        else some (if (decide (o.micros < 0)) = true then -(c.sum : Int) else c.sum)) = some o.told.micros := by
    intro c complete sum
    rw [complete,sum]
    by_cases small : o.micros.natAbs < secondMicros
    · have nothing : o.told = Offset.utc := if_pos small
      rw [nothing,Nat.div_eq_of_lt small]
      rfl
    · have same : o.told = o := if_neg small
      have some : ¬ o.micros.natAbs / secondMicros = 0 := by
        have := Nat.div_le_div_right (c:=secondMicros) (Nat.not_lt.mp small)
        rw [Nat.div_self (by decide)] at this
        omega
      simp only [same,Bool.not_true,Bool.false_eq_true,if_false,some,decide_eq_true_eq,Option.some.injEq]
      split <;> omega
  generalize hsize : o.micros.natAbs = size at *
  have bounds := parts_bounds size held true
  have sum := parts_sum size true
  have sign : (if o.micros < 0 then "-" else "+").toList = [if o.micros < 0 then '-' else '+'] := by
    split <;> rfl
  have marks : isOffsetMark (if o.micros < 0 then '-' else '+') = true ∧ (if o.micros < 0 then '-' else '+') ≠ 'Z' ∧
      ((if o.micros < 0 then '-' else '+') == '-') = decide (o.micros < 0) := by
    by_cases negative : o.micros < 0 <;> simp [negative,isOffsetMark]
  by_cases short : size % (60 * secondMicros) = 0
  · refine ⟨if o.micros < 0 then '-' else '+',(padded 2 (size / secondMicros / 3600)).toList ++ ':' ::
      (padded 2 (size / secondMicros / 60 % 60)).toList,?_,marks.1,marks.2.1,?_⟩
    · simp [offsetText,hsize,short,String.toList_append,sign]
    · rw [marks.2.2,offset?,clock_minutes _ _ (by simp only [parts] at bounds; omega) (by omega)]
      refine sizes _ rfl ?_
      simp only [Clock.sum,secondMicros] at short ⊢
      omega
  · refine ⟨if o.micros < 0 then '-' else '+',(clockText size).toList,?_,marks.1,marks.2.1,?_⟩
    · simp [offsetText,hsize,short,String.toList_append,sign,clockText]
    · rw [marks.2.2,offset?,clock_written size held]
      exact sizes _ rfl sum

theorem body_taken (body rest : List Char) (unmarked : ∀ c ∈ body, isOffsetMark c = false)
    (marked : ∀ c, rest.head? = some c → isOffsetMark c = true) :
    (body ++ rest).takeWhile (fun c => !isOffsetMark c) = body := by
  rw [List.takeWhile_append_of_pos (fun c member => by rw [unmarked c member]; rfl)]
  cases rest with
  | nil => simp
  | cons c rest => simp [marked c rfl]

theorem time_written (micros : Nat) (held : micros < dayMicros) (offset : Option Offset) :
    ∃ complete, time? ((clockText micros).toList ++ ((offset.map offsetText).getD "").toList) =
      some (parts micros complete,(offset.map Offset.told).map Offset.micros) := by
  have unmarked := clock_unmarked micros
  have read := clock_written micros held
  have some : ∃ c rest, (clockText micros).toList = c :: rest := by
    obtain ⟨a,b,hour,_,_⟩ := padded_two (micros / secondMicros / 3600)
      (by have := (parts_bounds micros held true).1; simp only [parts] at this; omega)
    exact ⟨a,_,by simp only [clockText,String.toList_append,hour,List.cons_append]; rfl⟩
  obtain ⟨first,more,written⟩ := some
  cases offset with
  | none =>
    have taken := body_taken (clockText micros).toList [] unmarked (by simp)
    rw [List.append_nil] at taken
    refine ⟨true,?_⟩
    simp only [Option.map_none,Option.getD_none,String.toList_empty,List.append_nil]
    rw [written] at taken read ⊢
    simp only [time?,taken,List.drop_length,read]
    rfl
  | some o =>
    obtain ⟨sign,rest,text,marked,notZulu,offsetRead⟩ := offset_written o
    have taken := body_taken (clockText micros).toList (sign :: rest) unmarked
      (by intro c head; cases head; exact marked)
    have left : ((clockText micros).toList ++ sign :: rest).drop (clockText micros).toList.length = sign :: rest :=
      List.drop_left
    refine ⟨false,?_⟩
    simp only [Option.map_some,Option.getD_some,text]
    rw [written,List.cons_append] at taken left ⊢
    rw [written] at read
    simp only [time?,taken,left]
    simp [notZulu,read,offsetRead]

theorem fields_written (t : Timestamp) : ∃ complete,
    fields? t.text.toList = some (t.date,parts t.clock complete,t.told.offset.map Offset.micros) := by
  obtain ⟨size,hyphen,notWeek,dateRead⟩ := date_written t.date t.date_exists
  obtain ⟨complete,timeRead⟩ := time_written t.clock t.clock_bound t.offset
  refine ⟨complete,?_⟩
  have text : t.text.toList = (dateText t.date).toList ++ 'T' ::
      ((clockText t.clock).toList ++ ((t.offset.map offsetText).getD "").toList) := by
    simp [Timestamp.text,localText,String.toList_append]
  generalize (clockText t.clock).toList ++ ((t.offset.map offsetText).getD "").toList = later at *
  have long : (t.text.toList).length = later.length + 11 := by simp [text,size]; omega
  have fourth : charAt t.text.toList 4 = '-' := by
    rw [text,charAt,List.getD_eq_getElem?_getD,List.getElem?_append_left (by omega),← List.getD_eq_getElem?_getD]
    exact hyphen
  have fifth : charAt t.text.toList 5 ≠ 'W' := by
    rw [text,charAt,List.getD_eq_getElem?_getD,List.getElem?_append_left (by omega),← List.getD_eq_getElem?_getD]
    exact notWeek
  have length : dateLength t.text.toList = 10 := by
    rw [dateLength,if_neg (by omega)]
    simp [fourth,fifth]
  have whole : t.text.toList.take 10 = (dateText t.date).toList := by rw [text,← size,List.take_left]
  have rest : t.text.toList.drop 10 = 'T' :: later := by rw [text,← size,List.drop_left]
  rw [fields?,if_neg (by omega)]
  simp only [length,whole,rest,dateRead,timeRead,Option.map_some]
  rfl

theorem read_text (t : Timestamp) : read t.text = .ok t.told := by
  obtain ⟨complete,written⟩ := fields_written t
  obtain ⟨year,month,day⟩ := t.date_exists
  obtain ⟨hours,minutes,seconds⟩ := parts_bounds t.clock t.clock_bound complete
  have offset : offsetOf (t.told.offset.map Offset.micros) = .ok t.told.offset := by
    cases t.told.offset with
    | none => rfl
    | some o => simp [offsetOf,Offset.ofMicros_micros]
  have moment : Timestamp.ofMicros? (t.micros : Nat) t.told.offset = some t.told := t.told.ofMicros_micros
  have years : ¬(t.date.year = 0 ∨ t.date.year > Date.lastYear) := by omega
  have months : ¬(t.date.month = 0 ∨ t.date.month > 12) := by omega
  have days : ¬(t.date.day = 0 ∨ t.date.day > Date.daysIn t.date.year t.date.month) := by omega
  simp only [read,written,offset,if_neg years,if_neg months,if_neg days,parts_sum,Timestamp.date_clock,moment]
  rw [if_neg (by omega),if_neg (by omega),if_neg (by omega)]

theorem offsetOf_some {micros? : Option Int} {o : Offset} (readable : offsetOf micros? = .ok (some o)) : micros? = some o.micros := by
  unfold offsetOf at readable
  split at readable
  · cases readable
  · rename_i micros
    split at readable
    · rename_i offset made
      cases readable
      rw [Offset.ofMicros_same made]
    · cases readable

-- An offset that is read has a whole second, or is none at all.
theorem offset_read {negative : Bool} {text : List Char} {micros : Int} (taken : offset? negative text = some micros) :
    micros = 0 ∨ secondMicros ≤ micros.natAbs := by
  unfold offset? at taken
  split at taken
  · rename_i c found
    split at taken
    · cases taken
    · split at taken
      · exact Or.inl (Option.some.inj taken).symm
      · rename_i lasting
        have long : secondMicros ≤ c.sum := Nat.not_lt.mp fun short => lasting (Nat.div_eq_of_lt short)
        rw [← Option.some.inj taken]
        right
        split <;> omega
  · cases taken

theorem time_read {text : List Char} {c : Clock} {micros : Int} (taken : time? text = some (c,some micros)) :
    micros = 0 ∨ secondMicros ≤ micros.natAbs := by
  unfold time? at taken
  split at taken
  · cases taken
  · dsimp only at taken
    split at taken
    · obtain ⟨d,-,same⟩ := Option.bind_eq_some_iff.mp taken
      split at same <;> cases same
    · obtain ⟨d,-,same⟩ := Option.map_eq_some_iff.mp taken
      cases same
      exact Or.inl rfl
    · cases taken
    · obtain ⟨d,-,rest⟩ := Option.bind_eq_some_iff.mp taken
      obtain ⟨o,found,same⟩ := Option.map_eq_some_iff.mp rest
      cases same
      exact offset_read found

theorem fields_read {text : List Char} {date : Date} {c : Clock} {micros : Int} (taken : fields? text = some (date,c,some micros)) :
    micros = 0 ∨ secondMicros ≤ micros.natAbs := by
  unfold fields? at taken
  split at taken
  · cases taken
  · dsimp only at taken
    split at taken
    · cases taken
    · split at taken
      · cases taken
      · obtain ⟨⟨d,offset⟩,found,same⟩ := Option.map_eq_some_iff.mp taken
        cases same
        exact time_read found

theorem read_legible {text : String} {t : Timestamp} (taken : read text = .ok t) : t.Legible := by
  unfold read at taken
  split at taken
  · cases taken
  · rename_i date c offset found
    split at taken
    · cases taken
    · rename_i held readable
      -- A date or a clock reading that does not exist is refused.
      repeat
        split at taken
        · cases taken
      split at taken
      · rename_i made
        cases taken
        intro o own
        rw [Timestamp.ofMicros_offset made] at own
        subst own
        exact fields_read (offsetOf_some readable ▸ found)
      · cases taken

end Iso
end OrderDesk
