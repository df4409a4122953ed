import OrderDesk.Desk.Lifecycle
import OrderDesk.Proofs.Order.Record
import OrderDesk.Proofs.Store.Laws

-- What a decision writes: the record after a move, after one execution and after a look at the market, field by
-- field. Whatever is written can be stored and read again.
namespace OrderDesk

-- The record after a move.
theorem Move.apply_record (m : Move) (now : Timestamp) (o : Order) : m.apply now o = {o with
    status := m.target
    updatedAt := now
    triggeredAt := if m.target = .triggered then some now else o.triggeredAt
    completedAt := if m.target = .completed ∨ m.target = .failed then some now else o.completedAt
    error := if m.error.isNull then o.error else m.error} := by
  obtain ⟨target,only,error,branch⟩ := m
  cases target <;> simp only [apply,stamp] <;> split <;> simp_all

theorem Move.decide_allowed {m : Move} {o : Order} (id : Json) (now : Timestamp) (allowed : m.allows o.status = true) :
    ∃ announcements, m.decide id now (some o) = .store (m.apply now o) (some (m.apply now o)) announcements :=
  ⟨_,if_pos allowed⟩

theorem Move.decide_blocked {m : Move} {o : Order} (id : Json) (now : Timestamp) (blocked : ¬ m.allows o.status = true) :
    ∃ entries, m.decide id now (some o) = .keep none entries :=
  ⟨_,if_neg blocked⟩

theorem Move.decide_refused {m : Move} {found : Option Order} (id : Json) (now : Timestamp)
    (refused : ∀ o, found = some o → ¬ m.allows o.status = true) : ∃ entries, m.decide id now found = .keep none entries := by
  cases found with
  | none => exact ⟨_,rfl⟩
  | some o => exact decide_blocked id now (refused o rfl)

section
variable (m : Move) (now : Timestamp) (o : Order)

@[simp] theorem Move.apply_id : (m.apply now o).id = o.id := by rw [apply_record]
@[simp] theorem Move.apply_params : (m.apply now o).params = o.params := by rw [apply_record]
@[simp] theorem Move.apply_flowId : (m.apply now o).flowId = o.flowId := by rw [apply_record]
@[simp] theorem Move.apply_status : (m.apply now o).status = m.target := by rw [apply_record]
@[simp] theorem Move.apply_createdAt : (m.apply now o).createdAt = o.createdAt := by rw [apply_record]
@[simp] theorem Move.apply_trailing : (m.apply now o).trailing = o.trailing := by rw [apply_record]
@[simp] theorem Move.apply_schedule : (m.apply now o).schedule = o.schedule := by rw [apply_record]

end

-- An execution that is taken.
structure Execution.Takes (now : Timestamp) (o after : Order) (before later : Schedule) (last : Bool) : Prop where
  active : o.status = .active
  scheduled : o.params.terms.scheduled = true
  held : o.schedule = some before
  remains : before.exhausted o.params.terms now = .ok false
  advanced : before.advance o.params.terms now = .ok later
  counted : Schedule.usedUp later.remaining = .ok last
  record : after = if last then {o with schedule := some later,updatedAt := now,status := .triggered,triggeredAt := some now}
    else {o with schedule := some later,updatedAt := now}

-- A look at the market that is written down.
structure Tick.Sees (snapshot : Snapshot) (now : Timestamp) (o after : Order) (merged : Snapshot) (trailing : Option Trailing)
    (ended : Bool) : Prop where
  watched : o.status = .active ∨ o.status = .triggered
  observed : o.observe snapshot now = .ok ({o with trailing},merged)
  kept : trailing.isSome = o.trailing.isSome
  ends : Tick.expired {o with trailing} now = .ok ended
  record : after = if ended then {o with trailing,status := .triggered,triggeredAt := some now,updatedAt := now}
    else {o with trailing}

-- What an order stays, whatever is written to it.
structure Order.Lasts (before after : Order) : Prop where
  id : after.id = before.id
  params : after.params = before.params
  flowId : after.flowId = before.flowId
  createdAt : after.createdAt = before.createdAt
  trailing : after.trailing.isSome = before.trailing.isSome
  schedule : after.schedule.isSome = before.schedule.isSome

theorem Order.Lasts.refl (o : Order) : Lasts o o := ⟨rfl,rfl,rfl,rfl,rfl,rfl⟩

theorem Order.Lasts.trans {first second third : Order} (before : Lasts first second) (after : Lasts second third) :
    Lasts first third :=
  ⟨after.id.trans before.id,after.params.trans before.params,after.flowId.trans before.flowId,
    after.createdAt.trans before.createdAt,after.trailing.trans before.trailing,after.schedule.trans before.schedule⟩

section
variable {now : Timestamp} {o after : Order}

theorem Move.apply_lasts (m : Move) (now : Timestamp) (o : Order) : o.Lasts (m.apply now o) := by
  constructor <;> simp

theorem Execution.Takes.lasts {before later : Schedule} {last : Bool} (takes : Takes now o after before later last) :
    o.Lasts after := by
  have held : o.schedule.isSome = true := by rw [takes.held]; rfl
  rw [takes.record]
  cases last <;> exact ⟨rfl,rfl,rfl,rfl,rfl,held.symm⟩

theorem Tick.Sees.lasts {snapshot merged : Snapshot} {trailing : Option Trailing} {ended : Bool}
    (sees : Sees snapshot now o after merged trailing ended) : o.Lasts after := by
  rw [sees.record]
  cases ended <;> exact ⟨rfl,rfl,rfl,rfl,sees.kept,rfl⟩

theorem Tick.Sees.schedule {snapshot merged : Snapshot} {trailing : Option Trailing} {ended : Bool}
    (sees : Sees snapshot now o after merged trailing ended) : after.schedule = o.schedule := by
  rw [sees.record]
  cases ended <;> rfl

end

theorem Order.schedule_some {o : Order} {s : Schedule} (held : o.schedule? = some s) :
    o.params.terms.scheduled = true ∧ o.schedule = some s := by
  unfold Order.schedule? at held
  split at held
  · exact ⟨‹_›,held⟩
  · cases held

-- Recording an execution writes nothing, or one execution that may be taken.
theorem Execution.decide_cases (id : Json) (now : Timestamp) (found : Option Order) :
    (∃ fault, decide id now found = .fail fault) ∨ (∃ entries, decide id now found = .keep false entries) ∨
      ∃ o after before later last announcements, found = some o ∧ Takes now o after before later last ∧
        decide id now found = .store after true announcements := by
  cases found with
  | none => exact Or.inr (Or.inl ⟨[],rfl⟩)
  | some o =>
    by_cases active : o.status = .active
    · cases held : o.schedule? with
      | none => exact Or.inr (Or.inl ⟨_,by rw [decide,if_pos active,held]⟩)
      | some s =>
        obtain ⟨scheduled,schedule⟩ := Order.schedule_some held
        have taken : decide id now (some o) = take id now o s := by rw [decide,if_pos active,held]
        rw [taken,take]
        cases remains : s.exhausted o.params.terms now with
        | error fault => exact Or.inl ⟨fault,rfl⟩
        | ok ended =>
          cases ended with
          | true => exact Or.inr (Or.inl ⟨[],rfl⟩)
          | false =>
            cases advanced : s.advance o.params.terms now with
            | error interrupted => exact Or.inl ⟨_,rfl⟩
            | ok later =>
              simp only
              cases counted : Schedule.usedUp later.remaining with
              | error fault => exact Or.inl ⟨fault,rfl⟩
              | ok last =>
                have takes := Takes.mk active scheduled schedule remains advanced counted rfl
                cases last with
                | true => exact Or.inr (Or.inr ⟨o,_,s,later,true,_,rfl,takes,rfl⟩)
                | false => exact Or.inr (Or.inr ⟨o,_,s,later,false,_,rfl,takes,rfl⟩)
    · exact Or.inr (Or.inl ⟨[],by rw [decide,if_neg active]⟩)

-- The mark of an order is the one it had, or the one that followed the market.
theorem Order.observe_record {o after : Order} {snapshot merged : Snapshot} {now : Timestamp}
    (seen : o.observe snapshot now = .ok (after,merged)) :
    ∃ trailing, after = {o with trailing} ∧ (trailing = o.trailing ∨
      ∃ t terms next fields, o.trailing = some t ∧ t.follow terms snapshot = .ok (next,fields) ∧ trailing = some next) := by
  obtain ⟨⟨own,mid⟩,trailed,rest⟩ := bind_eq_ok.mp seen
  obtain ⟨written,-,made⟩ := bind_eq_ok.mp rest
  cases made
  unfold Order.withTrailing at trailed
  split at trailed
  · rename_i t terms held named
    obtain ⟨⟨next,fields⟩,followed,made⟩ := bind_eq_ok.mp trailed
    cases made
    exact ⟨some next,rfl,Or.inr ⟨t,terms,next,fields,held,followed,rfl⟩⟩
  · cases trailed
    exact ⟨o.trailing,rfl,Or.inl rfl⟩

theorem Order.observe_kept {o after : Order} {snapshot merged : Snapshot} {now : Timestamp}
    (seen : o.observe snapshot now = .ok (after,merged)) : after.trailing.isSome = o.trailing.isSome := by
  obtain ⟨trailing,rfl,same | ⟨t,terms,next,fields,trailed,-,followed⟩⟩ := observe_record seen
  · exact congrArg Option.isSome same
  · simp [trailed,followed]

-- A look at the market writes nothing, or the record as it is seen then.
theorem Tick.decide_cases (id : Json) (snapshot : Snapshot) (now : Timestamp) (found : Option Order) :
    (∃ fault, decide id snapshot now found = .fail fault) ∨
    (∃ answer entries, decide id snapshot now found = .keep answer entries) ∨
      ∃ o after merged trailing ended announcements, found = some o ∧ Sees snapshot now o after merged trailing ended ∧
        decide id snapshot now found = .store after (some merged) announcements := by
  cases found with
  | none => exact Or.inr (Or.inl ⟨none,[],rfl⟩)
  | some o =>
    by_cases watched : o.status = .active ∨ o.status = .triggered
    · have looked : decide id snapshot now (some o) = observed id snapshot now o := by rw [decide,if_pos watched]
      rw [looked,observed]
      cases seen : o.observe snapshot now with
      | error fault => exact Or.inl ⟨fault,rfl⟩
      | ok result =>
        obtain ⟨after,merged⟩ := result
        have kept := Order.observe_kept seen
        obtain ⟨trailing,rfl,-⟩ := Order.observe_record seen
        simp only at kept ⊢
        cases raised : rose o.trailing trailing with
        | error fault => exact Or.inl ⟨fault,rfl⟩
        | ok higher =>
          cases ends : expired {o with trailing} now with
          | error fault => exact Or.inl ⟨fault,rfl⟩
          | ok ended =>
            have sees := Sees.mk watched seen kept ends rfl
            by_cases state : (trailing.isSome || o.schedule.isSome) = true
            · cases ended with
              | true => exact Or.inr (Or.inr ⟨o,_,merged,trailing,true,_,rfl,sees,if_pos state⟩)
              | false => exact Or.inr (Or.inr ⟨o,_,merged,trailing,false,_,rfl,sees,if_pos state⟩)
            · cases ended with
              | true => exact Or.inr (Or.inl ⟨some merged,[],if_neg state⟩)
              | false => exact Or.inr (Or.inl ⟨some merged,[],if_neg state⟩)
    · exact Or.inr (Or.inl ⟨none,[],by rw [decide,if_neg watched]⟩)

-- What a decision answers once it is carried out.
def Decision.answer? : Decision α → Option α
  | fail _ => none
  | keep answer _ | store _ answer _ => some answer

theorem Decision.answer_kept {written : Prop} [Decidable written] {o : Order} {answer : α} {announcements : List Announcement}
    {entries : List Entry} : (if written then store o answer announcements else keep answer entries).answer? = some answer := by
  split <;> rfl

theorem Move.decide_answer {m : Move} {id : Json} {now : Timestamp} {found : Option Order} {o : Order}
    (answered : (m.decide id now found).answer? = some (some o)) : ∃ old, found = some old ∧ o = m.apply now old := by
  cases found with
  | none => cases answered
  | some old =>
    unfold Move.decide at answered
    dsimp only at answered
    split at answered
    · cases answered
      exact ⟨old,rfl,rfl⟩
    · cases answered

theorem Tick.decide_answer {o : Order} {id : Json} {snapshot merged : Snapshot} {now : Timestamp}
    (answered : (decide id snapshot now (some o)).answer? = some (some merged)) :
    ∃ after, o.observe snapshot now = .ok (after,merged) := by
  unfold Tick.decide Tick.observed at answered
  dsimp only at answered
  split at answered
  · split at answered
    · cases answered
    · rename_i after seen observes
      split at answered
      · cases answered
      · cases answered
      · rw [Decision.answer_kept] at answered
        cases answered
        exact ⟨after,observes⟩
  · cases answered

theorem Schedule.failing_ok {s : Schedule} {x : Except Fault α} {a : α} (reached : failing s x = .ok a) : x = .ok a := by
  cases x with
  | error fault => cases reached
  | ok b =>
    cases reached
    rfl

-- One execution, in its parts.
theorem Schedule.advance_record {s later : Schedule} {terms : Terms} {now : Timestamp}
    (advanced : s.advance terms now = .ok later) :
    ∃ remaining done length due, (if s.remaining.isNull then Except.ok .null else stepped s.remaining (-1)) = .ok remaining ∧
      stepped s.done 1 = .ok done ∧ terms.interval = .ok length ∧ now.after length = .ok due ∧
        later = ⟨remaining,done,some due,some now⟩ := by
  obtain ⟨remaining,counted,rest⟩ := bind_eq_ok.mp advanced
  obtain ⟨done,executed,rest⟩ := bind_eq_ok.mp rest
  obtain ⟨due,planned,made⟩ := bind_eq_ok.mp rest
  obtain ⟨length,spaced,follows⟩ := bind_eq_ok.mp (failing_ok planned)
  cases made
  exact ⟨remaining,done,length,due,failing_ok counted,failing_ok executed,spaced,follows,rfl⟩

theorem Timestamp.after_offset {t later : Timestamp} {length : Number} (made : t.after length = .ok later) :
    later.offset = t.offset := by
  obtain ⟨micros,size,shifted⟩ := bind_eq_ok.mp made
  split at shifted
  · rename_i found
    cases shifted
    exact Timestamp.ofMicros_offset found
  · cases shifted

theorem Backend.after_keeps {b : Backend} {t later : Timestamp} {length : Number} (kept : b.Keeps t)
    (made : t.after length = .ok later) : b.Keeps later := by
  cases b with
  | memory => trivial
  | table =>
    intro o offset
    rw [Timestamp.after_offset made] at offset
    exact kept o offset

theorem Json.optStr_text (text : Option String) : Json.optStr text = .null ∨ ∃ s, Json.optStr text = .str s := by
  cases text with
  | none => exact Or.inl rfl
  | some s => exact Or.inr ⟨s,rfl⟩

section
variable {now : Timestamp} {o after : Order} {id : String} {b : Backend}

theorem Move.apply_sound {m : Move} (sound : o.Sound id) (text : m.error = .null ∨ ∃ s, m.error = .str s) :
    (m.apply now o).Sound id := by
  rw [apply_record]
  refine ⟨sound.id,sound.flow,?_,sound.params⟩
  simp only
  split
  · exact sound.error
  · exact text

theorem Move.apply_moments {m : Move} {P : Timestamp → Prop} (held : o.Moments P) (present : P now) :
    (m.apply now o).Moments P := by
  rw [apply_record]
  refine ⟨held.createdAt,present,?_,?_,held.schedule⟩
  · intro t stamped
    simp only at stamped
    split at stamped
    · cases stamped
      exact present
    · exact held.triggeredAt t stamped
  · intro t stamped
    simp only at stamped
    split at stamped
    · cases stamped
      exact present
    · exact held.completedAt t stamped

theorem Execution.Takes.sound {before later : Schedule} {last : Bool} (takes : Takes now o after before later last)
    (sound : o.Sound id) : after.Sound id := by
  rw [takes.record]
  cases last <;> exact ⟨sound.id,sound.flow,sound.error,sound.params⟩

theorem Execution.Takes.moments {before later : Schedule} {last : Bool} (takes : Takes now o after before later last)
    (held : o.Moments b.Keeps) (present : b.Keeps now) : after.Moments b.Keeps := by
  obtain ⟨remaining,done,length,due,-,-,-,planned,same⟩ := Schedule.advance_record takes.advanced
  have schedule : ∀ s, some later = some s → s.Moments b.Keeps := by
    intro s equal
    cases equal
    subst same
    refine ⟨?_,?_⟩
    · intro t next
      cases next
      exact Backend.after_keeps present planned
    · intro t executed
      cases executed
      exact present
  rw [takes.record]
  cases last with
  | true => exact ⟨held.createdAt,present,fun t stamped => by cases stamped; exact present,held.completedAt,schedule⟩
  | false => exact ⟨held.createdAt,present,held.triggeredAt,held.completedAt,schedule⟩

theorem Tick.Sees.sound {snapshot merged : Snapshot} {trailing : Option Trailing} {ended : Bool}
    (sees : Sees snapshot now o after merged trailing ended) (sound : o.Sound id) : after.Sound id := by
  rw [sees.record]
  cases ended <;> exact ⟨sound.id,sound.flow,sound.error,sound.params⟩

theorem Tick.Sees.moments {snapshot merged : Snapshot} {trailing : Option Trailing} {ended : Bool}
    (sees : Sees snapshot now o after merged trailing ended) (held : o.Moments b.Keeps) (present : b.Keeps now) :
    after.Moments b.Keeps := by
  rw [sees.record]
  cases ended with
  | true => exact ⟨held.createdAt,present,fun t stamped => by cases stamped; exact present,held.completedAt,held.schedule⟩
  | false => exact ⟨held.createdAt,held.updatedAt,held.triggeredAt,held.completedAt,held.schedule⟩

end

-- An order as it is stored first.
structure Order.New (id : String) (now : Timestamp) (o : Order) : Prop where
  id : o.id = .str id
  flow : ∃ flow, o.flowId = .str flow
  error : o.error = .null ∨ ∃ message, o.error = .str message
  params : o.params.Settled
  status : o.status = .created ∨ o.status = .active
  createdAt : o.createdAt = now
  updatedAt : o.updatedAt = now
  triggeredAt : o.triggeredAt = none
  completedAt : o.completedAt = none
  trailing : o.trailing = Order.initialTrailing o.params.terms
  schedule : o.schedule = Order.initialSchedule o.params.terms now

theorem Order.New.sound {id : String} {now : Timestamp} {o : Order} (new : o.New id now) : o.Sound id :=
  ⟨new.id,new.flow,new.error,new.params⟩

theorem Order.New.moments {id : String} {now : Timestamp} {o : Order} {P : Timestamp → Prop} (new : o.New id now)
    (present : P now) : o.Moments P := by
  refine ⟨?_,?_,?_,?_,?_⟩
  · rw [new.createdAt]
    exact present
  · rw [new.updatedAt]
    exact present
  · simp [new.triggeredAt]
  · simp [new.completedAt]
  · intro s held
    rw [new.schedule] at held
    have initial : s.nextDue = some now ∧ s.lastExecuted = none := by
      unfold initialSchedule at held
      split at held
      · cases held; exact ⟨rfl,rfl⟩
      · cases held; exact ⟨rfl,rfl⟩
      · cases held
    refine ⟨?_,?_⟩
    · rw [initial.1]
      intro t same
      cases same
      exact present
    · simp [initial.2]

end OrderDesk
