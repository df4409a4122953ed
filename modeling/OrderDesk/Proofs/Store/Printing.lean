import OrderDesk.Proofs.Desk.Execution
import OrderDesk.Proofs.Trailing.Mark
-- Orders that a table can print. The numbers of an order come from its parameters, and only the count of its executions grows.

namespace OrderDesk

theorem Json.withinFields_all (digits : Nat) (fields : List (String × Json)) :
    withinFields digits fields = true ↔ ∀ field ∈ fields, field.2.within digits = true := by
  induction fields with
  | nil => simp [withinFields]
  | cons field rest ih =>
    obtain ⟨name,v⟩ := field
    simp [withinFields,ih]

-- The numbers that a table prints of an order have few enough digits, and still have after so many executions more.
structure Order.Prints (digits room : Nat) (o : Order) : Prop where
  params : o.params.toJson.within digits = true
  mark : ∀ t, o.trailing = some t → t.mark.within digits = true
  remaining : ∀ s, o.schedule = some s → s.remaining = .null ∨ ∃ left : Int, s.remaining = .int left ∧ left.natAbs < 10 ^ digits
  done : ∀ s, o.schedule = some s → ∃ n : Nat, s.done = .int n ∧ n + room < 10 ^ digits

namespace Order
variable {digits room : Nat} {o after : Order} {now : Timestamp}

theorem Prints.less {spare : Nat} (prints : o.Prints digits room) (less : spare ≤ room) : o.Prints digits spare := by
  refine ⟨prints.params,prints.mark,prints.remaining,?_⟩
  intro s held
  obtain ⟨n,done,bound⟩ := prints.done s held
  exact ⟨n,done,by omega⟩

theorem optTimestamp_within (digits : Nat) (moment : Option Timestamp) : (optTimestamp moment).within digits = true := by
  cases moment <;> rfl

theorem Prints.within (prints : o.Prints digits room) : o.within digits = true := by
  have state : (Json.obj o.stateFields).within digits = true := by
    rw [Json.within,Json.withinFields_all]
    intro field member
    rcases List.mem_append.mp member with trails | plans
    · obtain ⟨t,held,rfl⟩ := Option.map_eq_some_iff.mp (Option.mem_toList.mp trails)
      simp [Trailing.toJson,Json.within,Json.withinFields,prints.mark t held]
    · obtain ⟨s,held,rfl⟩ := Option.map_eq_some_iff.mp (Option.mem_toList.mp plans)
      obtain ⟨n,done,bound⟩ := prints.done s held
      have counted : s.done.within digits = true := by
        rw [done]
        exact decide_eq_true (by omega)
      have left : s.remaining.within digits = true := by
        rcases prints.remaining s held with none | ⟨left,some,bound⟩
        · rw [none]
          rfl
        · rw [some]
          exact decide_eq_true bound
      simp [Schedule.toJson,Json.within,Json.withinFields,counted,left,optTimestamp_within]
  rw [Order.within,prints.params,state]
  rfl

-- An order that is written over another prints as it does, but for what is new of its state.

theorem Prints.kept (prints : o.Prints digits room) (params : after.params = o.params)
    (trailing : ∀ t, after.trailing = some t → o.trailing = some t ∨ ∃ x, t.mark = .float x) (schedule : after.schedule = o.schedule) :
    after.Prints digits room := by
  refine ⟨by rw [params]; exact prints.params,?_,by rw [schedule]; exact prints.remaining,by rw [schedule]; exact prints.done⟩
  intro t held
  rcases trailing t held with before | ⟨x,raised⟩
  · exact prints.mark t before
  · rw [raised]
    rfl

theorem Prints.flagged (prints : o.Prints digits room) (error : Json) (now : Timestamp) :
    Prints digits room {o with error,updatedAt := now} := prints.kept rfl (fun _ held => Or.inl held) rfl

theorem Prints.apply (prints : o.Prints digits room) (m : Move) (now : Timestamp) : (m.apply now o).Prints digits room := by
  refine prints.kept (m.apply_lasts now o).params ?_ (Move.apply_schedule m now o)
  rw [Move.apply_trailing]
  exact fun _ held => Or.inl held

theorem Prints.sees {snapshot merged : Snapshot} {trailing : Option Trailing} {ended : Bool} (prints : o.Prints digits room)
    (sees : Tick.Sees snapshot now o after merged trailing ended) : after.Prints digits room := by
  refine prints.kept sees.lasts.params ?_ sees.schedule
  have seen : after.trailing = trailing := by
    rw [sees.record]
    cases ended <;> rfl
  obtain ⟨own,same,outcome⟩ := observe_record sees.observed
  have own : trailing = own := congrArg Order.trailing same
  subst own
  intro t held
  rw [seen] at held
  rcases outcome with kept | ⟨old,terms,next,fields,before,followed,reaches⟩
  · exact Or.inl (kept.symm.trans held)
  · cases held.symm.trans reaches
    rcases Trailing.follow_cases followed with same | ⟨price,-,raised⟩
    · exact Or.inl (same ▸ before)
    · rcases Trailing.raised_cases raised with same | ⟨x,-,same⟩
      · have equal : t = old := congrArg Trailing.mk same
        exact Or.inl (equal ▸ before)
      · exact Or.inr ⟨x,same⟩

-- One execution takes one of those that are left.
theorem Prints.takes {before later : Schedule} {last : Bool} (prints : o.Prints digits (room + 1))
    (takes : Execution.Takes now o after before later last) : after.Prints digits room := by
  obtain ⟨remaining,done,length,due,lowered,raised,-,-,rfl⟩ := Schedule.advance_record takes.advanced
  obtain ⟨n,counted,bound⟩ := prints.done before takes.held
  have trailing : after.trailing = o.trailing := by
    rw [takes.record]
    cases last <;> rfl
  have schedule : after.schedule = some ⟨remaining,done,some due,some now⟩ := by
    rw [takes.record]
    cases last <;> rfl
  refine ⟨by rw [takes.lasts.params]; exact prints.params,by rw [trailing]; exact prints.mark,?_,?_⟩
  · rintro s held
    cases schedule.symm.trans held
    rcases prints.remaining before takes.held with none | ⟨left,some,small⟩
    · rw [none] at lowered
      exact Or.inl (Except.ok.inj lowered).symm
    · have unspent := (Schedule.exhausted_false takes.remains).1
      rw [some,Schedule.usedUp_int] at unspent
      have positive : ¬ left ≤ 0 := of_decide_eq_false (Except.ok.inj unspent)
      rw [some] at lowered
      cases lowered
      exact Or.inr ⟨left + -1,rfl,by omega⟩
  · rintro s held
    cases schedule.symm.trans held
    rw [counted,Schedule.stepped_int] at raised
    cases raised
    exact ⟨n + 1,rfl,by omega⟩

-- The bound of a schedule is one of the parameters.
theorem total_within {p : Params} {total : Int} (bounded : p.terms.total? = some total) (printed : p.toJson.within digits = true) :
    total.natAbs < 10 ^ digits := by
  have named (name : String) (member : (name,Json.int total) ∈ p.fields) : total.natAbs < 10 ^ digits := by
    rw [Params.toJson,Json.within,Json.withinFields_all] at printed
    exact of_decide_eq_true (printed _ (List.mem_filter.mpr ⟨member,rfl⟩))
  cases terms : p.terms with
  | dca plan =>
    rw [terms] at bounded
    have count : plan.count = some total := bounded
    exact named "maxExecutions" (by simp [Params.fields,terms,Terms.fields,count,Json.ofOption])
  | twap plan =>
    rw [terms] at bounded
    cases bounded
    exact named "slices" (by simp [Params.fields,terms,Terms.fields])
  | _ =>
    rw [terms] at bounded
    cases bounded

theorem initialSchedule_counts {terms : Terms} {s : Schedule} (held : initialSchedule terms now = some s) :
    s.remaining = Json.ofOption Json.int terms.total? ∧ s.done = .int 0 := by
  unfold initialSchedule at held
  split at held
  · cases held
    exact ⟨rfl,rfl⟩
  · cases held
    exact ⟨rfl,rfl⟩
  · cases held

theorem New.prints {id : String} (new : o.New id now) (printed : o.params.toJson.within digits = true) (roomy : room < 10 ^ digits) :
    o.Prints digits room := by
  refine ⟨printed,?_,?_,?_⟩
  · intro t held
    rw [new.trailing] at held
    obtain ⟨terms,-,rfl⟩ := Option.map_eq_some_iff.mp held
    dsimp only
    cases terms.initialPrice <;> rfl
  · intro s held
    obtain ⟨remaining,-⟩ := initialSchedule_counts (new.schedule ▸ held)
    cases bounded : o.params.terms.total? with
    | none =>
      rw [bounded] at remaining
      exact Or.inl remaining
    | some total =>
      rw [bounded] at remaining
      exact Or.inr ⟨total,remaining,total_within bounded printed⟩
  · intro s held
    obtain ⟨-,done⟩ := initialSchedule_counts (new.schedule ▸ held)
    exact ⟨0,done,by omega⟩

-- What a table whose printing is out of order in these ways prints of an order, as far as it prints.
def Fits (broken : List (Access × Fault)) (room : Nat) (o : Order) : Prop :=
  ∀ digits fault, (.print digits,fault) ∈ broken → o.Prints digits room

end Order

theorem Storage.printing_fits {s : Storage} {o : Order} {room : Nat} (fits : o.Fits s.broken room) : s.printing o = .ok () := by
  have passes : s.broken.find? (fun entry => entry.1.refuses o) = none := by
    rw [List.find?_eq_none]
    rintro ⟨access,fault⟩ member refuses
    cases access with
    | print digits =>
      have within := (fits digits fault member).within
      simp [Access.refuses,within] at refuses
    | _ => cases refuses
  rw [printing,passes]
  cases s.store <;> rfl

end OrderDesk
