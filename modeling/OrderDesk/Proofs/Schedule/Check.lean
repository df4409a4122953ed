import OrderDesk.Proofs.Desk.Execution
import OrderDesk.Proofs.Desk.Stamps
import OrderDesk.Proofs.Desk.Stock
import OrderDesk.Proofs.Flow.Check
import OrderDesk.Proofs.Flow.Walk

-- The checks of a schedule: one asks whether anything remains, the other whether the next execution is due.
-- Both read what is derived from the schedule, whatever the snapshot had in its place.
namespace OrderDesk

theorem needNumber_ok {found : Option Number} {x : Number} (needed : needNumber found = .ok x) : found = some x := by
  cases found with
  | none => cases needed
  | some y => exact congrArg some (Except.ok.inj needed)

theorem Timestamp.minus_precedes {a b : Timestamp} {apart : Int} (parted : a.minus b = .ok apart) : apart ≤ 0 ↔ a.Precedes b := by
  unfold minus since? at parted
  by_cases compared : comparable a b = true
  · rw [if_pos compared] at parted
    cases parted
    simp only [Precedes,compared,true_and]
    omega
  · rw [if_neg compared] at parted
    cases parted

theorem Timestamp.instant_short (t : Timestamp) : t.instant.natAbs < 2 ^ 62 := by
  have days : Date.span * dayMicros + dayMicros < 2 ^ 62 := by decide +kernel
  have held := t.held
  generalize Date.span * dayMicros = span at days held
  cases kept : t.offset with
  | none =>
    have same : t.instant = t.micros := by simp [instant,kept]
    omega
  | some offset =>
    have same : t.instant = t.micros - offset.micros := by simp [instant,kept]
    have small := offset.held
    omega

theorem Timestamp.minus_made {a b : Timestamp} (compared : a.comparable b = true) :
    ∃ apart, a.minus b = .ok apart ∧ apart.natAbs < 2 ^ 64 := by
  have first := a.instant_short
  have second := b.instant_short
  refine ⟨a.instant - b.instant,?_,by omega⟩
  rw [minus,since?,if_pos compared]

namespace Schedule
variable {s : Schedule} {terms : Terms} {now : Timestamp} {ended : Bool} {fields : Fields}

-- Nothing is left to wait for when the next execution is due, or none is planned.
theorem untilDue_zero {seconds : Number} (waited : s.untilDue now = .ok seconds) :
    seconds.le 0 = true ↔ ∀ due, s.nextDue = some due → due.Precedes now := by
  unfold untilDue at waited
  split at waited
  · rename_i planned
    have nothing : (Number.float 0).le 0 = true := (Number.le_zero _).symm.trans Number.zero_least
    rw [← Except.ok.inj waited,planned]
    simp [nothing]
  · rename_i due planned
    obtain ⟨apart,parted,rest⟩ := bind_eq_ok.mp waited
    obtain ⟨length,needed,shown⟩ := bind_eq_ok.mp rest
    have order := Number.div_zero_order (by decide) (by decide +kernel) (needNumber_ok needed)
    rw [← Except.ok.inj shown,Number.max_le_zero,order,decide_eq_true_iff,Timestamp.minus_precedes parted,planned]
    simp

theorem derived_fields (derived : s.derived terms now = .ok fields) : ∃ ended seconds,
    s.exhausted terms now = .ok ended ∧ s.untilDue now = .ok seconds ∧
      fields.get? "secondsUntilDue" = some (.ofNumber seconds) ∧ fields.get? "remainingExecutions" = some (s.remainingField ended) := by
  obtain ⟨ended,exhausts,rest⟩ := bind_eq_ok.mp derived
  obtain ⟨seconds,waited,made⟩ := bind_eq_ok.mp rest
  cases made
  exact ⟨ended,seconds,exhausts,waited,rfl,rfl⟩

-- A clock that can be compared with the moments of a schedule.
structure Clocked (s : Schedule) (terms : Terms) (now : Timestamp) : Prop where
  due : ∀ due, s.nextDue = some due → due.comparable now = true
  last : ∀ last, terms.endDate? = some last → now.comparable last = true

theorem exhausted_made (typed : s.Typed) (compared : ∀ last, terms.endDate? = some last → now.comparable last = true) :
    ∃ ended, s.exhausted terms now = .ok ended := by
  obtain ⟨empty,counted⟩ : ∃ empty, usedUp s.remaining = .ok empty := by
    rcases typed with none | ⟨n,held⟩
    · exact ⟨false,by rw [none]; rfl⟩
    · exact ⟨_,by rw [held,usedUp_int]⟩
  rw [exhausted,counted,bind_ok]
  cases empty with
  | true => exact ⟨true,rfl⟩
  | false =>
    cases ends : terms.endDate? with
    | none => exact ⟨false,rfl⟩
    | some last =>
      obtain ⟨apart,parted,-⟩ := Timestamp.minus_made (compared last ends)
      exact ⟨_,bind_eq_ok.mpr ⟨apart,parted,rfl⟩⟩

theorem untilDue_made (clocked : s.Clocked terms now) : ∃ seconds, s.untilDue now = .ok seconds := by
  rw [untilDue]
  cases planned : s.nextDue with
  | none => exact ⟨_,rfl⟩
  | some due =>
    obtain ⟨apart,compared,short⟩ := Timestamp.minus_made (clocked.due due planned)
    obtain ⟨length,divided⟩ := Number.div_made short secondMicros
    have needed : needNumber (Number.div? (.int apart) (.int secondMicros)) = .ok length := by rw [divided]; rfl
    exact ⟨_,bind_eq_ok.mpr ⟨apart,compared,bind_eq_ok.mpr ⟨length,needed,rfl⟩⟩⟩

-- Nothing but a clock of another kind keeps the fields from being derived.
theorem derived_made (typed : s.Typed) (clocked : s.Clocked terms now) : ∃ fields, s.derived terms now = .ok fields := by
  obtain ⟨ended,exhausts⟩ := exhausted_made typed clocked.last
  obtain ⟨seconds,waited⟩ := untilDue_made clocked
  exact ⟨_,bind_eq_ok.mpr ⟨ended,exhausts,bind_eq_ok.mpr ⟨seconds,waited,rfl⟩⟩⟩

-- A count that a float can hold, if there is one.
def Fits (s : Schedule) : Prop := ∀ n, s.remaining = .int n → (Number.int n).toFloat?.isSome = true

-- What is shown of the count is zero when the schedule is exhausted, and only then.
theorem remainingField_zero (typed : s.Typed) (fits : s.Fits) (exhausts : s.exhausted terms now = .ok ended) :
    ∃ own x, (s.remainingField ended).number? = some own ∧ own.toFloat? = some x ∧ x.isZero = ended := by
  cases ended with
  | true => exact ⟨.int 0,0,rfl,by decide +kernel,Binary64.zero_isZero⟩
  | false =>
    rcases typed with none | ⟨n,held⟩
    · refine ⟨.int (-1),-1,?_,by decide +kernel,by decide +kernel⟩
      rw [remainingField,none]
      rfl
    · have some := (exhausted_false exhausts).1
      rw [held,usedUp_int] at some
      obtain ⟨x,converted⟩ := Option.isSome_iff_exists.mp (fits n held)
      refine ⟨.int n,x,?_,converted,Number.toFloat_nonzero ?_ converted⟩
      · rw [remainingField,held]
        rfl
      · exact (Number.int_le n 0).trans (Except.ok.inj some)

end Schedule

namespace Template
variable {s : Schedule} {terms : Terms} {now : Timestamp} {ended : Bool} {fields : Fields}

theorem due_derived {seconds : Number} (derived : fields.get? "secondsUntilDue" = some (.ofNumber seconds)) (snapshot : Snapshot) :
    due.met (Fields.set "schedule" (.obj fields) snapshot) = .ok (seconds.le 0) := by
  have compared (merged : Snapshot) : due.met merged = Operator.compare .lte (Snapshot.resolve merged "schedule.secondsUntilDue") (.float 0) :=
    rfl
  have ordered : Operator.compare .lte (.ofNumber seconds) (.float 0) = .ok (Operator.holds .lte (seconds.compare? (.float 0))) := by
    cases seconds <;> rfl
  rw [compared,Snapshot.resolve_derived (by decide +kernel) derived,ordered,Operator.holds_atMost,Number.le_zero]

theorem remaining_derived (typed : s.Typed) (fits : s.Fits) (exhausts : s.exhausted terms now = .ok ended)
    (derived : fields.get? "remainingExecutions" = some (s.remainingField ended)) (snapshot : Snapshot) :
    remaining.met (Fields.set "schedule" (.obj fields) snapshot) = .ok !ended := by
  have compared (merged : Snapshot) :
      remaining.met merged = Operator.compare .ne (Snapshot.resolve merged "schedule.remainingExecutions") (.float 0) := rfl
  obtain ⟨own,x,read,converted,zero⟩ := Schedule.remainingField_zero typed fits exhausts
  rw [compared,Snapshot.resolve_derived (by decide +kernel) derived,Operator.compare_different,read]
  simp only [converted,Number.float_zero,zero]

theorem due_admitted : due.Admitted := by
  have number : (0 : Binary64).isNaN = false := Binary64.zero_number
  exact ⟨by decide,number⟩

theorem remaining_admitted : remaining.Admitted := ⟨by decide,trivial⟩

end Template

theorem Sliced.perSlice_counted {whole x : Binary64} {slices : Int} (counted : (Number.int slices).toFloat? = some x) :
    perSlice? whole slices = some (whole.div x) := by
  have same : (Number.float whole).toFloat? = some whole := rfl
  rw [perSlice?,Number.div_mixed (by intro a b float; cases float),Number.both_some _ same counted]
  rfl

theorem Terms.scheduled_kind {terms : Terms} (scheduled : terms.scheduled = true) : terms.kind = .dca ∨ terms.kind = .twap := by
  cases terms with
  | dca plan => exact Or.inl rfl
  | twap plan => exact Or.inr rfl
  | _ => cases scheduled

namespace Order
variable {o : Order} {d : FlowDefaults} {now : Timestamp} {f : Flow}

-- The flow of a schedule checks what is derived, goes on while anything remains, and ends when nothing does.
structure Loops (o : Order) (f : Flow) : Prop where
  remaining : f.Asks (Draft.nodeId o.id "check-remaining") (.allOf [.leaf Template.remaining])
  due : f.Asks (Draft.nodeId o.id "check-schedule") (Template.withExtra Template.due o.params.terms.conditions?)
  stays : f.next? (Draft.nodeId o.id "check-remaining") (some true) = some (Draft.nodeId o.id "check-schedule")
  leaves : ∃ last, f.next? (Draft.nodeId o.id "check-remaining") (some false) = some last ∧ f.Plays last .terminal

theorem scheduled_loops (settled : o.params.Settled) (scheduled : o.params.terms.scheduled = true) (made : o.flow d now = .ok f) :
    o.Loops f := by
  obtain ⟨plan,drafted,rfl⟩ := flow_drafted settled made
  cases Template.draft_shape drafted with
  | once kind guard => exact absurd (Terms.scheduled_kind scheduled) (not_or.mpr ⟨kind.1,kind.2.1⟩)
  | trails own =>
    rw [own] at scheduled
    cases scheduled
  | protects own =>
    rw [own] at scheduled
    cases scheduled
  | repeats kind guard =>
    refine ⟨Flow.ofDraft_asks rfl rfl ?_,Flow.ofDraft_asks rfl rfl ?_,?_,?_⟩
    · have alone : (Template.withExtra Template.remaining none).Admitted :=
        Template.withExtra_admitted Template.remaining_admitted fun g given => by cases given
      exact alone
    · exact Template.withExtra_admitted Template.due_admitted fun g waits => Terms.ofFields_conditions settled.terms waits
    · rw [Flow.ofDraft_next]
      rfl
    · refine ⟨Draft.nodeId o.id "terminal",?_,Flow.ofDraft_plays.mpr ⟨"terminal",rfl,?_⟩⟩
      · rw [Flow.ofDraft_next]
        rfl
      · simp [Draft.roles,Draft.nodes,Template.scheduled,Template.done,Template.node,Role.name]

-- Only a number of slices that no float can hold keeps an order from having a flow.
theorem flow_counted (settled : o.params.Settled)
    (counted : ∀ plan, o.params.terms = .twap plan → (Number.int plan.slices).toFloat?.isSome = true) (d : FlowDefaults) (now : Timestamp) :
    ∃ f, o.flow d now = .ok f := by
  obtain ⟨plan,drafted⟩ : ∃ plan, Template.draft d o.params = .ok plan := by
    cases own : o.params.terms with
    | twap plan =>
      obtain ⟨x,float⟩ := Option.isSome_iff_exists.mp (counted plan own)
      exact Template.draft_sliced own (Sliced.perSlice_counted float) (Sliced.perSlice_counted float)
    | _ =>
      rw [Template.draft,own]
      exact ⟨_,rfl⟩
  exact ⟨_,flow_made settled drafted now⟩

end Order
end OrderDesk
