import OrderDesk.Proofs.Order.Reread
import OrderDesk.Store.Row

-- Orders that a table keeps: the row of an order is read as that order.
namespace OrderDesk

theorem bind_ok (a : α) (next : α → Except ε β) : (Except.ok a >>= next) = next a := rfl

theorem bind_eq_ok {x : Except ε α} {next : α → Except ε β} {b : β} :
    (x >>= next) = .ok b ↔ ∃ a, x = .ok a ∧ next a = .ok b := by
  constructor
  · intro made
    cases x with
    | error fault => cases made
    | ok a => exact ⟨a,rfl,made⟩
  · rintro ⟨a,rfl,made⟩
    exact made

theorem pure_ok (a : α) : (pure a : Except ε α) = .ok a := rfl

-- What every order made here is like.
structure Order.Sound (id : String) (o : Order) : Prop where
  id : o.id = .str id
  flow : ∃ flow, o.flowId = .str flow
  error : o.error = .null ∨ ∃ message, o.error = .str message
  params : o.params.Settled

-- What holds of every moment in an order.

def Schedule.Moments (P : Timestamp → Prop) (s : Schedule) : Prop :=
  (∀ t, s.nextDue = some t → P t) ∧ (∀ t, s.lastExecuted = some t → P t)

structure Order.Moments (P : Timestamp → Prop) (o : Order) : Prop where
  createdAt : P o.createdAt
  updatedAt : P o.updatedAt
  triggeredAt : ∀ t, o.triggeredAt = some t → P t
  completedAt : ∀ t, o.completedAt = some t → P t
  schedule : ∀ s, o.schedule = some s → s.Moments P

-- An order with a fault to report.

theorem Order.Sound.flagged {id : String} {o : Order} (sound : o.Sound id) (message : String) (now : Timestamp) :
    Order.Sound id {o with error := .str message,updatedAt := now} :=
  ⟨sound.id,sound.flow,Or.inr ⟨message,rfl⟩,sound.params⟩

theorem Order.Moments.flagged {P : Timestamp → Prop} {o : Order} (held : o.Moments P) (error : Json) {now : Timestamp} (present : P now) :
    Order.Moments P {o with error,updatedAt := now} :=
  ⟨held.createdAt,present,held.triggeredAt,held.completedAt,held.schedule⟩

theorem dateText_value (t : Timestamp) : t.text ≠ "" := by
  intro empty
  have size := (Iso.date_written t.date t.date_exists).1
  have length := congrArg (fun s : String => s.toList.length) empty
  simp only [Timestamp.text,Timestamp.localText,String.toList_append,List.length_append,size,String.toList_empty,
    List.length_nil] at length
  omega

theorem readTimestamp_written (t : Timestamp) : readTimestamp (.str t.text) = .ok (some t.told) := by
  simp [readTimestamp,dateText_value t,Iso.read_text t]

theorem readTimestamp_option (moment : Option Timestamp) :
    readTimestamp (optTimestamp moment) = .ok (moment.map Timestamp.told) := by
  cases moment with
  | none => rfl
  | some t => exact readTimestamp_written t

theorem readTimestamp_column (moment : Option Timestamp) :
    readTimestamp (.optStr (moment.map Timestamp.text)) = .ok (moment.map Timestamp.told) := by
  cases moment with
  | none => rfl
  | some t => exact readTimestamp_written t

theorem Timestamp.told_option {moment : Option Timestamp} (legible : ∀ t, moment = some t → t.Legible) :
    moment.map Timestamp.told = moment := by
  cases moment with
  | none => rfl
  | some t => exact congrArg some (Timestamp.told_legible (legible t rfl))

theorem Timestamp.legible_option {moment : Option Timestamp} (same : moment.map Timestamp.told = moment) :
    ∀ t, moment = some t → t.Legible := by
  rintro t rfl
  exact Timestamp.legible_told (Option.some.inj same)

-- An order with its moments as they are read from their texts.

def Schedule.told (s : Schedule) : Schedule :=
  {s with nextDue := s.nextDue.map Timestamp.told,lastExecuted := s.lastExecuted.map Timestamp.told}

def Order.told (o : Order) : Order :=
  {o with
    createdAt := o.createdAt.told,updatedAt := o.updatedAt.told,triggeredAt := o.triggeredAt.map Timestamp.told,
    completedAt := o.completedAt.map Timestamp.told,schedule := o.schedule.map Schedule.told}

theorem Schedule.told_legible {s : Schedule} (legible : s.Moments Timestamp.Legible) : s.told = s := by
  rw [told,Timestamp.told_option legible.1,Timestamp.told_option legible.2]

theorem Order.told_legible {o : Order} (legible : o.Moments Timestamp.Legible) : o.told = o := by
  have schedule : o.schedule.map Schedule.told = o.schedule := by
    cases planned : o.schedule with
    | none => rfl
    | some s => exact congrArg some (Schedule.told_legible (legible.schedule s planned))
  rw [told,Timestamp.told_legible legible.createdAt,Timestamp.told_legible legible.updatedAt,
    Timestamp.told_option legible.triggeredAt,Timestamp.told_option legible.completedAt,schedule]

theorem Order.legible_told {o : Order} (same : o.told = o) : o.Moments Timestamp.Legible := by
  refine ⟨Timestamp.legible_told (congrArg Order.createdAt same),Timestamp.legible_told (congrArg Order.updatedAt same),
    Timestamp.legible_option (congrArg Order.triggeredAt same),Timestamp.legible_option (congrArg Order.completedAt same),?_⟩
  intro s planned
  have kept : o.schedule.map Schedule.told = o.schedule := congrArg Order.schedule same
  rw [planned] at kept
  have again := Option.some.inj kept
  exact ⟨Timestamp.legible_option (congrArg Schedule.nextDue again),Timestamp.legible_option (congrArg Schedule.lastExecuted again)⟩

theorem Trailing.ofJson_written (t : Trailing) : ofJson t.toJson = .ok t := rfl

theorem Schedule.ofJson_written (s : Schedule) : ofJson s.toJson = .ok s.told := by
  have next := readTimestamp_option s.nextDue
  have last := readTimestamp_option s.lastExecuted
  simp [ofJson,toJson,Validation.get_cons,next,last,bind_ok,pure_ok,told]

theorem Status.stored_written (status : Status) : stored (.str status.name) = .ok status := by
  cases status <;> rfl

theorem Kind.stored_written (kind : Kind) : stored (.str kind.name) = .ok kind := by
  cases kind <;> rfl

namespace Order

theorem trailing_written (o : Order) :
    partOf "trailing" Trailing.ofJson (.obj o.stateFields) = .ok o.trailing := by
  cases held : o.trailing with
  | some t => simp [partOf,statePart,stateFields,held,Validation.get_cons,Trailing.ofJson_written,Except.map]
  | none =>
    cases scheduled : o.schedule <;>
      simp [partOf,statePart,stateFields,held,scheduled,Fields.get?]

theorem schedule_written (o : Order) :
    partOf "schedule" Schedule.ofJson (.obj o.stateFields) = .ok (o.schedule.map Schedule.told) := by
  cases held : o.schedule with
  | some s =>
    have read := Schedule.ofJson_written s
    cases trailed : o.trailing <;>
      simp [partOf,statePart,stateFields,held,trailed,Validation.get_cons,read,Except.map]
  | none =>
    cases trailed : o.trailing <;>
      simp [partOf,statePart,stateFields,held,trailed,Fields.get?]

end Order

namespace Row

-- The row of an order made here.
def written (id flow : String) (error : Option String) (o : Order) : Row :=
  ⟨some id,o.kind,o.status,o.params.token,flow,o.createdAt.text,o.updatedAt.text,o.triggeredAt.map Timestamp.text,
    o.completedAt.map Timestamp.text,error,o.params.toJson,.obj o.stateFields⟩

theorem ofOrder_written {id : String} {o : Order} (sound : o.Sound id) :
    ∃ flow error, o.flowId = .str flow ∧ o.error = .optStr error ∧ ofOrder o = .ok (written id flow error o) := by
  obtain ⟨flow,flowId⟩ := sound.flow
  rcases sound.error with none | ⟨message,some⟩
  · refine ⟨flow,Option.none,flowId,none,?_⟩
    rw [ofOrder,sound.id,flowId,none]
    rfl
  · refine ⟨flow,Option.some message,flowId,some,?_⟩
    rw [ofOrder,sound.id,flowId,some]
    rfl

theorem written_read {id flow : String} {error : Option String} {o : Order} (sound : o.Sound id)
    (flowId : o.flowId = .str flow) (errorText : o.error = .optStr error) : (written id flow error o).toOrder = .ok o.told := by
  have trailing := o.trailing_written
  have schedule := o.schedule_written
  have created := readTimestamp_written o.createdAt
  have updated := readTimestamp_written o.updatedAt
  have triggered := readTimestamp_column o.triggeredAt
  have completed := readTimestamp_column o.completedAt
  have idText : Json.optStr (some id) = o.id := sound.id.symm
  obtain ⟨shown,params,read⟩ := Params.parseTagged_settled sound.params
  simp only [toOrder,Order.ofFields,fields,written,Order.given,Order.required,Validation.get_cons,String.reduceEq,if_true,
    if_false,Option.getD_some,bind_ok,pure_ok,trailing,schedule,created,updated,triggered,completed,Kind.stored_written,
    Status.stored_written,params,Order.kind,read]
  rw [idText,← flowId,← errorText]
  rfl

theorem toOrder_told {id : String} {o : Order} (sound : o.Sound id) :
    ∃ r, ofOrder o = .ok r ∧ r.id = some id ∧ r.toOrder = .ok o.told := by
  obtain ⟨flow,error,flowId,errorText,made⟩ := ofOrder_written sound
  exact ⟨_,made,rfl,written_read sound flowId errorText⟩

theorem toOrder_written {id : String} {o : Order} (sound : o.Sound id) (legible : o.Moments Timestamp.Legible) :
    ∃ r, ofOrder o = .ok r ∧ r.id = some id ∧ r.toOrder = .ok o := by
  have written := toOrder_told sound
  rwa [Order.told_legible legible] at written

end Row
end OrderDesk
