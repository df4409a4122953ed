import OrderDesk.Proofs.Desk.Renewal
import OrderDesk.Proofs.Schedule.Check

-- Executions that can be planned no more. An execution is counted together with the date of the next one, so
-- where the calendar ends before that date the execution fails, though something remains and nothing else is
-- wrong.
namespace OrderDesk
open Checked Validation

-- Lengths of time that do not lead back. One of them has no end.
def Number.Forward : Number → Prop
  | .int n => 0 ≤ n
  | .float x => x = .infinite false ∨ ∃ quanta held, x = .finite false quanta held

namespace Binary64
variable {x y : Binary64}

theorem positive_forward (above : x.positive = true) : (Number.float x).Forward := by
  cases x with
  | nan => cases above
  | infinite negative =>
    cases negative with
    | true => cases above
    | false => exact Or.inl rfl
  | finite negative quanta held =>
    cases negative with
    | true => cases above
    | false => exact Or.inr ⟨quanta,held,rfl⟩

theorem ofQuanta_forward (quanta : Nat) : (Number.float (ofQuanta false quanta)).Forward := by
  unfold ofQuanta
  split
  · exact Or.inr ⟨quanta,_,rfl⟩
  · exact Or.inl rfl

-- A part of a length leads forward as the length does.
theorem div_forward (length : x.positive = true) (parts : y.positive = true) (counted : ∀ side, y ≠ .infinite side) :
    (Number.float (x.div y)).Forward := by
  cases y with
  | nan => cases parts
  | infinite side => exact absurd rfl (counted side)
  | finite down many held =>
    cases down with
    | true => cases parts
    | false =>
      cases x with
      | nan => cases length
      | infinite negative =>
        cases negative with
        | true => cases length
        | false => exact Or.inl rfl
      | finite negative quanta whole =>
        cases negative with
        | true => cases length
        | false =>
          have some : many ≠ 0 := Nat.ne_of_gt (of_decide_eq_true parts)
          have made : (finite false quanta whole).div (finite false many held) = ofQuanta false (nearest (quanta * scale) many) :=
            if_neg some
          rw [made]
          exact ofQuanta_forward _

end Binary64

theorem microsOf_forward {length : Number} (forward : length.Forward) :
    (∃ n : Nat, microsOf length = .ok n) ∨ microsOf length = .error .overflow := by
  cases length with
  | int n =>
    obtain ⟨m,rfl⟩ := Int.eq_ofNat_of_zero_le forward
    exact Or.inl ⟨m * secondMicros,rfl⟩
  | float x =>
    cases forward with
    | inl endless =>
      rw [endless]
      exact Or.inr rfl
    | inr finite =>
      obtain ⟨quanta,held,same⟩ := finite
      rw [same]
      exact Or.inl ⟨_,rfl⟩

namespace Number

theorem both_none {x y : Number} (f : Binary64 → Binary64 → Binary64) (second : y.toFloat? = none) : both? f x y = none := by
  unfold both?
  rw [second]
  cases x.toFloat? <;> rfl

theorem toFloat_counted {a : Number} {x : Binary64} {n : Int} (whole : a = .int n) (float : a.toFloat? = some x) :
    x = Binary64.ofInt n ∧ ∀ side, x ≠ .infinite side := by
  revert whole float
  fun_cases toFloat? a with
  | case1 y =>
    intro whole
    cases whole
  | case2 m side large =>
    intro _ float
    cases float
  | case3 m bounded =>
    intro whole float
    have own := Option.some.inj float
    rw [← own,← Number.int.inj whole]
    exact ⟨rfl,bounded⟩

end Number

-- The calendar ends before the length does.
def Timestamp.Overruns (now : Timestamp) (length : Number) : Prop :=
  ∀ n : Int, microsOf length = .ok n → (Date.span * dayMicros : Nat) ≤ now.micros + n

namespace Timestamp
variable {now : Timestamp} {length : Number}

theorem after_overruns (forward : length.Forward) (late : now.Overruns length) : now.after length = .error .overflow := by
  unfold after
  cases microsOf_forward forward with
  | inr endless => rw [endless]; rfl
  | inl counted =>
    obtain ⟨n,made⟩ := counted
    have beyond := late n made
    have missing : now.shift? n = none := by
      have sum : (now.micros : Int) + n = Int.ofNat (now.micros + n) := rfl
      rw [shift?,sum]
      exact dif_neg (by omega)
    simp only [made,bind_ok,missing]
    rfl

-- The date is the clock moved on by the length, rounded to microseconds.
theorem after_planned (forward : length.Forward) (early : ¬ now.Overruns length) :
    ∃ (n : Nat) (due : Timestamp), microsOf length = .ok n ∧ now.after length = .ok due ∧ due.micros = now.micros + n ∧
      due.offset = now.offset := by
  cases microsOf_forward forward with
  | inr endless =>
    refine absurd ?_ early
    intro n made
    rw [endless] at made
    cases made
  | inl counted =>
    obtain ⟨n,made⟩ := counted
    have within : now.micros + n < Date.span * dayMicros := by
      apply Nat.lt_of_not_le
      intro beyond
      refine early ?_
      intro m same
      cases made.symm.trans same
      omega
    have moved : now.shift? n = some ⟨now.micros + n,now.offset,within⟩ := by
      have sum : (now.micros : Int) + n = Int.ofNat (now.micros + n) := rfl
      rw [shift?,sum]
      exact dif_pos within
    refine ⟨n,⟨now.micros + n,now.offset,within⟩,made,?_,rfl,rfl⟩
    unfold after
    simp only [made,bind_ok,moved]
    rfl

end Timestamp

-- Terms of schedules.

theorem Validation.positive_positive {v : Json} {x : Binary64} (read : positive v = ok x) : x.positive = true := by
  have above := boundedNumber_admitted read (.above 0) List.mem_cons_self
  exact (Number.float_gt x).symm.trans above

theorem Interval.length_forward {v : Json} {interval : Interval} (read : ofJson v = ok interval) : interval.length.Forward := by
  cases interval with
  | seconds length =>
    obtain ⟨given,taken⟩ := ofJson_ok read length rfl
    exact Binary64.positive_forward (positive_positive taken)
  | hourly | daily | weekly | monthly => exact Int.natCast_nonneg _

namespace Sliced
variable {plan : Sliced}

theorem perSlice_uncounted {whole : Binary64} {slices : Int} (uncounted : (Number.int slices).toFloat? = none) :
    perSlice? whole slices = none := by
  rw [perSlice?,Number.div_mixed (by intro a b float; cases float),Number.both_none _ uncounted]
  rfl

theorem sliceInterval_forward {fields : Fields} {length : Binary64} (read : Terms.slicedOf fields = ok plan)
    (made : plan.sliceInterval? = some length) : (Number.float length).Forward := by
  simp only [Terms.slicedOf,seq_eq_ok,functor_eq_ok] at read
  obtain ⟨_,_,⟨_,slices,⟨_,duration,⟨_,_,⟨_,-,rfl⟩,-,rfl⟩,readDuration,rfl⟩,readSlices,rfl⟩,-,rfl⟩ := read
  obtain ⟨v,whole⟩ := needed_ok readDuration
  obtain ⟨w,counted⟩ := needed_ok readSlices
  have some := wholeAtLeast_bound counted
  cases float : (Number.int slices).toFloat? with
  | none =>
    rw [sliceInterval?,perSlice_uncounted float] at made
    cases made
  | some x =>
    rw [sliceInterval?,perSlice_counted float] at made
    cases made
    obtain ⟨own,finite⟩ := Number.toFloat_counted rfl float
    exact Binary64.div_forward (positive_positive whole) (own ▸ Binary64.ofInt_positive (by omega)) finite

end Sliced

namespace Terms
variable {kind : Kind} {fields : Fields} {terms : Terms}

theorem interval_sliced {plan : Sliced} {length : Number} (own : terms = .twap plan) :
    terms.interval = .ok length ↔ ∃ x, plan.sliceInterval? = some x ∧ .float x = length := by
  revert own
  fun_cases interval terms with
  | case1 other =>
    intro own
    cases own
  | case2 other x spread =>
    intro own
    cases own
    simp [spread]
  | case3 other missing =>
    intro own
    cases own
    simp [missing]
  | case4 other recurring sliced =>
    intro own
    exact absurd own (sliced plan)

theorem interval_forward {length : Number} (read : ofFields kind fields = ok terms) (made : terms.interval = .ok length) :
    length.Forward := by
  have own := ofFields_kind read
  cases terms with
  | dca plan =>
    subst own
    obtain ⟨plan,readPlan,same⟩ := map_eq_ok.mp read
    cases same
    cases made
    simp only [recurringOf,seq_eq_ok,functor_eq_ok] at readPlan
    obtain ⟨_,_,⟨_,_,⟨_,_,⟨_,interval,⟨_,-,rfl⟩,readInterval,rfl⟩,-,rfl⟩,-,rfl⟩,-,rfl⟩ := readPlan
    obtain ⟨v,taken⟩ := needed_ok readInterval
    exact Interval.length_forward taken
  | twap plan =>
    subst own
    obtain ⟨plan,readPlan,same⟩ := map_eq_ok.mp read
    cases same
    obtain ⟨x,some,same⟩ := (interval_sliced rfl).mp made
    rw [← same]
    exact Sliced.sliceInterval_forward readPlan some
  | _ => cases made

-- The date that ends a schedule says where it is read.
theorem endDate_placed {last : Timestamp} (read : ofFields kind fields = ok terms) (ends : terms.endDate? = some last) :
    last.offset.isSome = true := by
  have own := ofFields_kind read
  cases terms with
  | dca plan =>
    subst own
    obtain ⟨plan,readPlan,same⟩ := map_eq_ok.mp read
    cases same
    simp only [recurringOf,seq_eq_ok,functor_eq_ok] at readPlan
    obtain ⟨_,endDate,⟨_,_,⟨_,_,⟨_,_,⟨_,-,rfl⟩,-,rfl⟩,-,rfl⟩,-,rfl⟩,readDate,rfl⟩ := readPlan
    cases ends
    obtain ⟨v,taken⟩ := option_ok readDate
    unfold Calendar.moment at taken
    split at taken
    · cases taken
      rfl
    · simp at taken
  | _ => cases ends

end Terms

theorem Template.draft_interval {d : FlowDefaults} {p : Params} {plan : Draft} (drafted : draft d p = .ok plan)
    (scheduled : p.terms.scheduled = true) : ∃ length, p.terms.interval = .ok length := by
  cases own : p.terms with
  | dca terms => exact ⟨_,rfl⟩
  | twap terms =>
    obtain ⟨amountOf,amounts⟩ : ∃ amountOf, Sliced.sliceAmount? = amountOf := ⟨_,rfl⟩
    obtain ⟨lengthOf,lengths⟩ : ∃ lengthOf, Sliced.sliceInterval? = lengthOf := ⟨_,rfl⟩
    rw [draft,own,amounts,lengths] at drafted
    dsimp only at drafted
    split at drafted
    · rename_i amount x _ spread
      rw [← lengths] at spread
      exact ⟨.float x,(Terms.interval_sliced rfl).mpr ⟨x,spread,rfl⟩⟩
    · cases drafted
  | _ =>
    rw [own] at scheduled
    cases scheduled

-- One execution, as it is planned or fails.

namespace Schedule
variable {s : Schedule} {terms : Terms} {first now : Timestamp} {times : List Timestamp} {length : Number}

theorem Counts.typed (counts : s.Counts terms first times) : s.Typed := by
  cases bounded : terms.total? with
  | none => exact Or.inl (counts.unbounded bounded)
  | some total =>
    obtain ⟨left,held,-⟩ := counts.bounded total bounded
    exact Or.inr ⟨left,held⟩

theorem Typed.lowered (typed : s.Typed) : ∃ remaining,
    (if s.remaining.isNull then Except.ok .null else stepped s.remaining (-1)) = .ok remaining ∧ ∃ last, usedUp remaining = .ok last := by
  cases typed with
  | inl none =>
    rw [none]
    exact ⟨.null,rfl,false,rfl⟩
  | inr some =>
    obtain ⟨n,held⟩ := some
    rw [held]
    exact ⟨.int (n + -1),rfl,_,usedUp_int _⟩

theorem failing_bind {α β : Type} {made : Except Fault α} {a : α} {next : α → Except Interrupted β} (ok : made = .ok a) :
    (failing s made >>= next) = next a := by
  rw [ok]
  rfl

theorem advance_planned {due : Timestamp} (typed : s.Typed) (done : s.done = .int times.length)
    (spaced : terms.interval = .ok length) (planned : now.after length = .ok due) :
    ∃ later last, s.advance terms now = .ok later ∧ usedUp later.remaining = .ok last ∧
      later.done = .int (times.length + 1) ∧ later.lastExecuted = some now ∧ later.nextDue = some due := by
  obtain ⟨remaining,lowered,last,counted⟩ := typed.lowered
  have dated : (terms.interval >>= now.after) = .ok due := by rw [spaced,bind_ok,planned]
  refine ⟨⟨remaining,.int (times.length + 1),some due,some now⟩,last,?_,counted,rfl,rfl,rfl⟩
  rw [advance,failing_bind lowered,failing_bind (by rw [done,stepped_int]),failing_bind dated]
  rfl

theorem advance_overruns (typed : s.Typed) (done : s.done = .int times.length) (spaced : terms.interval = .ok length)
    (late : now.after length = .error .overflow) : ∃ interrupted, s.advance terms now = .error interrupted ∧
      interrupted.fault = .overflow := by
  obtain ⟨remaining,lowered,-⟩ := typed.lowered
  have dated : (terms.interval >>= now.after) = .error .overflow := by rw [spaced,bind_ok,late]
  refine ⟨⟨⟨remaining,.int (times.length + 1),s.nextDue,some now⟩,.overflow⟩,?_,rfl⟩
  rw [advance,failing_bind lowered,failing_bind (by rw [done,stepped_int]),dated]
  rfl

-- Only a clock that cannot be compared with the end of a schedule keeps the schedule from being asked.
theorem exhausted_incomparable {fault : Fault} (typed : s.Typed) (failed : s.exhausted terms now = .error fault) :
    fault = .wrongKind ∧ ∃ last, terms.endDate? = some last ∧ now.comparable last = false := by
  by_cases compared : ∀ last, terms.endDate? = some last → now.comparable last = true
  · obtain ⟨ended,made⟩ := exhausted_made typed compared
    rw [made] at failed
    cases failed
  · obtain ⟨last,missing⟩ := Classical.not_forall.mp compared
    obtain ⟨ends,apart⟩ := Classical.not_imp.mp missing
    rw [Bool.not_eq_true] at apart
    refine ⟨?_,last,ends,apart⟩
    have parted : now.minus last = .error .wrongKind := by rw [Timestamp.minus,Timestamp.since?,apart]; rfl
    obtain ⟨empty,counted⟩ : ∃ empty, usedUp s.remaining = .ok empty := by
      cases typed with
      | inl none => exact ⟨false,by rw [none]; rfl⟩
      | inr some =>
        obtain ⟨n,held⟩ := some
        exact ⟨_,by rw [held,usedUp_int]⟩
    rw [exhausted,counted,bind_ok] at failed
    cases empty with
    | true => cases failed
    | false =>
      rw [ends,if_neg Bool.false_ne_true] at failed
      dsimp only at failed
      rw [parted] at failed
      exact (Except.error.inj failed).symm

end Schedule

namespace Execution
variable {o after : Order} {s later : Schedule} {now : Timestamp}

theorem decide_idle (id : Json) (now : Timestamp) (still : o.status ≠ .active) : decide id now (some o) = .keep false [] := by
  rw [decide,if_neg still]

theorem decide_take (id : Json) (active : o.status = .active) (scheduled : o.params.terms.scheduled = true)
    (held : o.schedule = some s) : decide id now (some o) = take id now o s := by
  have own : o.schedule? = some s := by rw [Order.schedule?,if_pos scheduled,held]
  rw [decide,if_pos active,own]

theorem take_spent (id : Json) (ended : s.exhausted o.params.terms now = .ok true) : take id now o s = .keep false [] := by
  rw [take,ended]

theorem take_unread {fault : Fault} (id : Json) (failed : s.exhausted o.params.terms now = .error fault) :
    take id now o s = .fail fault := by
  rw [take,failed]

theorem take_interrupted {interrupted : Schedule.Interrupted} (id : Json) (remains : s.exhausted o.params.terms now = .ok false)
    (failed : s.advance o.params.terms now = .error interrupted) : take id now o s = .fail interrupted.fault := by
  rw [take,remains]
  dsimp only
  rw [failed]

theorem take_stored {last : Bool} (id : Json) (remains : s.exhausted o.params.terms now = .ok false)
    (advanced : s.advance o.params.terms now = .ok later) (counted : Schedule.usedUp later.remaining = .ok last)
    (record : after = if last then {o with schedule := some later,updatedAt := now,status := .triggered,triggeredAt := some now}
      else {o with schedule := some later,updatedAt := now}) : ∃ announcements, take id now o s = .store after true announcements := by
  rw [take,remains]
  dsimp only
  rw [advanced]
  dsimp only
  rw [counted,record]
  cases last with
  | true => exact ⟨_,rfl⟩
  | false => exact ⟨_,rfl⟩

end Execution

namespace Desk

-- The flow of every order can be drawn.
def Drawn (d : Desk) : Prop := ∀ id o, d.stored id = some o → ∃ plan, Template.draft d.settings.flow o.params = .ok plan

section
variable {d : Desk} {v : Visit} {visits : List Visit} {id : String}

theorem visit_draws (ready : d.Ready (v :: visits)) (drawn : d.Drawn) : (d.visit v).1.Drawn := by
  intro id after seen
  rw [visit_settings ready]
  cases visit_before ready seen with
  | inl old =>
    obtain ⟨before,held,change⟩ := old
    cases change with
    | inl same =>
      rw [← same]
      exact drawn id before held
    | inr effect =>
      rw [effect.lasts.params]
      exact drawn id before held
  | inr new =>
    obtain ⟨-,first,-,creation,answer,-⟩ := new
    obtain ⟨-,-,renews⟩ := visit_renews ready answer
    rw [← first] at renews
    have made := renews.again after seen v.now
    rw [visit_settings ready] at made
    obtain ⟨plan,drafted,-⟩ := Order.flow_drafted ((visit_leaves ready).ready.orders id after seen).1.params made
    exact ⟨plan,drafted⟩

theorem run_draws {earlier later : List Visit} (ready : d.Ready (earlier ++ later)) (drawn : d.Drawn) : (d.run earlier).Drawn := by
  induction earlier generalizing d with
  | nil => exact drawn
  | cons v earlier ih => exact ih (visit_leaves ready).ready (visit_draws ready drawn)

-- What comes of a call that asks for an execution.
inductive Claims (d : Desk) (v : Visit) (id : String) (o : Order) (s : Schedule) (length : Number) : Prop where
  | idle (still : o.status ≠ .active) (refused : d.visit v = ({d with clock := v.now},.done (.ok false)))
  | spent (active : o.status = .active) (ended : s.exhausted o.params.terms v.now = .ok true)
      (refused : d.visit v = ({d with clock := v.now},.done (.ok false)))
  | counted {n : Nat} {micros : Nat} {after : Order} {later : Schedule} {due : Timestamp} (active : o.status = .active)
      (remains : s.exhausted o.params.terms v.now = .ok false) (early : ¬ v.now.Overruns length)
      (done : (d.visit v).2 = .done (.ok true)) (stored : (d.visit v).1.stored id = some after)
      (held : after.schedule = some later) (before : s.done = .int n) (counts : later.done = .int (n + 1))
      (stamped : later.lastExecuted = some v.now) (planned : later.nextDue = some due)
      (rounded : microsOf length = .ok micros) (place : due.micros = v.now.micros + micros)
  | overruns (active : o.status = .active) (remains : s.exhausted o.params.terms v.now = .ok false) (late : v.now.Overruns length)
      (raised : d.visit v = ({d with clock := v.now},.done (.error .overflow)))
  | incomparable (active : o.status = .active) (unplaced : v.now.offset = none)
      (raised : d.visit v = ({d with clock := v.now},.done (.error .wrongKind)))

theorem visit_record (asked : v.call = .recordExecution id) : d.visit v =
    ((recordExecution {d with clock := v.now} (.str id)).1,.done (recordExecution {d with clock := v.now} (.str id)).2) := by
  rw [visit,asked]
  rfl

theorem visit_fails {o : Order} {fault : Fault} (ready : d.Ready (v :: visits)) (asked : v.call = .recordExecution id)
    (held : d.stored id = some o) (decided : Execution.decide (.str id) v.now (some o) = .fail fault) :
    d.visit v = ({d with clock := v.now},.done (.error fault)) := by
  rw [← held] at decided
  rw [visit_record asked,recordExecution,amend_fail (ready.timed v.now) decided]

theorem visit_keeps {o : Order} {answer : Bool} (ready : d.Ready (v :: visits)) (asked : v.call = .recordExecution id)
    (held : d.stored id = some o) (decided : Execution.decide (.str id) v.now (some o) = .keep answer []) :
    d.visit v = ({d with clock := v.now},.done (.ok answer)) := by
  rw [← held] at decided
  rw [visit_record asked,recordExecution,amend_keep (ready.timed v.now) decided]
  rfl

theorem visit_claims {o : Order} {s : Schedule} {times : List Timestamp} {length : Number} (ready : d.Ready (v :: visits))
    (asked : v.call = .recordExecution id) (held : d.stored id = some o) (counted : o.Counted times s)
    (scheduled : o.params.terms.scheduled = true) (spaced : o.params.terms.interval = .ok length) (forward : length.Forward) :
    d.Claims v id o s length := by
  have settled := (ready.orders id o held).1.params
  have typed := counted.counts.typed
  by_cases active : o.status = .active
  · have taken : Execution.decide (.str id) v.now (some o) = Execution.take (.str id) v.now o s :=
      Execution.decide_take (.str id) active scheduled counted.held
    cases exhausts : s.exhausted o.params.terms v.now with
    | error fault =>
      obtain ⟨kind,last,ends,apart⟩ := Schedule.exhausted_incomparable typed exhausts
      rw [Execution.take_unread (.str id) exhausts,kind] at taken
      refine .incomparable active ?_ (visit_fails ready asked held taken)
      have placed := Terms.endDate_placed settled.terms ends
      rw [Timestamp.comparable,placed,beq_eq_false_iff_ne] at apart
      simpa using apart
    | ok ended =>
      cases ended with
      | true =>
        rw [Execution.take_spent (.str id) exhausts] at taken
        exact .spent active exhausts (visit_keeps ready asked held taken)
      | false =>
        by_cases late : v.now.Overruns length
        · obtain ⟨interrupted,failed,fault⟩ :=
            Schedule.advance_overruns typed counted.counts.done spaced (Timestamp.after_overruns forward late)
          rw [Execution.take_interrupted (.str id) exhausts failed,fault] at taken
          exact .overruns active exhausts late (visit_fails ready asked held taken)
        · obtain ⟨micros,due,rounded,planned,place,-⟩ := Timestamp.after_planned forward late
          obtain ⟨later,last,advanced,left,done,stamped,next⟩ :=
            Schedule.advance_planned typed counted.counts.done spaced planned
          obtain ⟨announcements,stores⟩ := Execution.take_stored (.str id) exhausts advanced left rfl
          rw [stores,← held] at taken
          have takes := Execution.Takes.mk active scheduled counted.held exhausts advanced left rfl
          obtain ⟨sound,moments⟩ := ready.orders id o held
          obtain ⟨stored,written,changes⟩ := amend_store (ready.timed v.now) taken (takes.sound sound)
            (takes.moments moments (ready.clocks v List.mem_cons_self))
          have visited : d.visit v = (stored,.done (.ok true)) := by rw [visit_record asked,recordExecution,written]
          have here := changes.here
          rw [← show (d.visit v).1 = stored by rw [visited]] at here
          refine .counted (n:=times.length) active exhausts late ?_ here ?_ counted.counts.done done stamped next rounded place
          · rw [visited]
          · cases last <;> rfl
  · exact .idle active (visit_keeps ready asked held (Execution.decide_idle (.str id) v.now active))

-- Every call of a session that asks for an execution of a stored schedule.
theorem run_claims (opened : d.Opened visits) : ∀ earlier v later, visits = earlier ++ v :: later → ∀ id o,
    v.call = .recordExecution id → (d.run earlier).stored id = some o → o.params.terms.scheduled = true →
    ∃ s length, o.schedule = some s ∧ o.params.terms.interval = .ok length ∧ length.Forward ∧
      (d.run earlier).Claims v id o s length := by
  intro earlier v later split id o asked held scheduled
  have ready := opened.ready_at split
  have first := opened_ready opened
  rw [split] at first
  have tallied : d.Tallied (earlier ++ v :: later) id [] := by
    refine ⟨fun o stored => ?_,fun _ => Or.inl rfl⟩
    rw [opened_nothing opened id] at stored
    cases stored
  obtain ⟨s,counted⟩ := (run_tallied first tallied).held o held scheduled
  obtain ⟨plan,drafted⟩ := run_draws first (opened_holds opened) id o held
  obtain ⟨length,spaced⟩ := Template.draft_interval drafted scheduled
  have forward := Terms.interval_forward (ready.orders id o held).1.params.terms spaced
  exact ⟨s,length,counted.held,spaced,forward,visit_claims ready asked held counted scheduled spaced forward⟩

end

-- Purchases a million million seconds apart. The calendar ends before the second.
def endless : Json := .obj [("token",.str "ETH"),("sellToken",.str "USDC"),("amountPerExecution",.int 25),
  ("interval",.int 1000000000000)]

def distant : List Visit := [⟨.origin,.create (.str "dca") endless⟩,⟨.origin,.recordExecution "order_1"⟩]

-- What is asked of the purchases above: they are drawn, nothing bounds them, and they are that far apart.
def endlessly (p : Params) : Bool :=
  (Template.draft .standard p).toOption.isSome &&
    match p.terms with
    | .dca terms => terms.count.isNone && terms.endDate.isNone && (microsOf terms.interval.length).toOption == some 1000000000000000000
    | _ => false

theorem endless_drawn : ∃ p plan terms, Params.parse (.str "dca") endless = .ok p ∧ Template.draft .standard p = .ok plan ∧
    p.terms = .dca terms ∧ terms.count = none ∧ terms.endDate = none ∧ microsOf terms.interval.length = .ok 1000000000000000000 := by
  have read : (Params.parse (.str "dca") endless).toOption.any endlessly = true := by decide +kernel
  obtain ⟨p,parsed,long⟩ := Option.any_eq_true _ _ |>.mp read
  rw [endlessly,Bool.and_eq_true] at long
  obtain ⟨drawn,timed⟩ := long
  obtain ⟨plan,drafted⟩ := Option.isSome_iff_exists.mp drawn
  cases own : p.terms with
  | dca terms =>
    rw [own] at timed
    simp only [Bool.and_eq_true,Option.isNone_iff_eq_none,beq_iff_eq] at timed
    obtain ⟨⟨count,endDate⟩,micros⟩ := timed
    exact ⟨p,plan,terms,toOption_eq_some.mp parsed,toOption_eq_some.mp drafted,own,count,endDate,toOption_eq_some.mp micros⟩
  | _ =>
    rw [own] at timed
    cases timed

theorem distant_claims : (vacant .memory).Opened distant ∧ ∃ o s, ((vacant .memory).run (distant.take 1)).stored "order_1" = some o ∧
    o.status = .active ∧ o.schedule = some s ∧ s.exhausted o.params.terms .origin = .ok false ∧
    (((vacant .memory).run (distant.take 1)).visit ⟨.origin,.recordExecution "order_1"⟩).2 = .done (.error .overflow) := by
  have opened : (vacant .memory).Opened distant := vacant_opened fun _ _ => trivial
  obtain ⟨p,plan,terms,parsed,drafted,own,count,endDate,micros⟩ := endless_drawn
  have drawn : (Params.parse (.str "dca") endless >>= Template.draft .standard) = .ok plan := by rw [parsed]; exact drafted
  obtain ⟨creation,makes⟩ := visit_drawn (v:=⟨.origin,.create (.str "dca") endless⟩) (opened_ready opened) rfl rfl drawn
  have held : ((vacant .memory).run (distant.take 1)).stored "order_1" = some creation.order := makes.here
  have active : creation.order.status = .active := (makes.stores.taken rfl).2
  have answer : (create {vacant .memory with clock := .origin} (.str "dca") endless).2 = .ok creation := by
    have made := makes.answer
    rw [visit_create rfl] at made
    injection made
  have params : creation.order.params = p := by
    have made := create_params answer
    rw [parsed] at made
    exact (Except.ok.inj made).symm
  have schedule : creation.order.schedule = some ⟨.null,.int 0,some .origin,none⟩ := by
    obtain ⟨o,drafts,made⟩ := create_made answer
    have new := (drafts.new.entered (vacant .memory).settings.autoActivate (reception {vacant .memory with clock := .origin})).schedule
    rw [← made,params,own] at new
    rw [new,Order.initialSchedule,count]
    rfl
  have claims := run_claims opened (distant.take 1) ⟨.origin,.recordExecution "order_1"⟩ [] rfl "order_1" creation.order rfl held
    (by rw [params,own]; rfl)
  generalize (vacant .memory).run (distant.take 1) = d at held claims ⊢
  obtain ⟨s,length,kept,spaced,-,claims⟩ := claims
  cases schedule.symm.trans kept
  rw [params,own] at spaced
  cases spaced
  have remains : Schedule.exhausted ⟨.null,.int 0,some .origin,none⟩ creation.order.params.terms .origin = .ok false := by
    rw [params,own,Schedule.exhausted,Terms.endDate?,endDate]
    rfl
  have late : Timestamp.origin.Overruns terms.interval.length := by
    intro n made
    cases micros.symm.trans made
    have bound : Date.span * dayMicros ≤ 1000000000000000000 := by decide
    omega
  refine ⟨opened,creation.order,_,held,active,schedule,remains,?_⟩
  cases claims with
  | idle still => exact absurd active still
  | spent active ended =>
    cases remains.symm.trans ended
  | counted active remains early => exact absurd late early
  | overruns active remains late raised => rw [raised]
  | incomparable active unplaced => cases unplaced

end Desk

end OrderDesk
