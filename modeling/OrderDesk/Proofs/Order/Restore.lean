import OrderDesk.Calendar.Span
import OrderDesk.Proofs.Store.Laws

-- Orders that are restored. An order is written as a document and as the row of a table, and both are read as
-- that order.
namespace OrderDesk

namespace Fields

theorem get_nil (name : String) : get? name [] = none := rfl

theorem get_append (name : String) (first rest : Fields) : get? name (first ++ rest) = (get? name first).or (get? name rest) := by
  simp [get?,List.find?_append,Option.map_or]

theorem get_option (name key : String) (part : Option α) (write : α → Json) :
    get? name (part.map fun a => (key,write a)).toList = if key = name then part.map write else none := by
  cases part with
  | none => simp [get_nil]
  | some a => rw [Option.map_some,Option.toList_some,Validation.get_cons]; rfl

theorem get_unless (name key : String) (v : Json) (hidden : Bool) :
    get? name (if hidden then [] else [(key,v)]) = if key = name ∧ hidden = false then some v else none := by
  cases hidden <;> simp [get_nil,Validation.get_cons]

end Fields

namespace Order
variable {o : Order}

-- What an order always has, before what it may have.
def steadyFields (o : Order) : Fields :=
  [("id",o.id),("type",.str o.kind.name),("params",o.params.toJson),("status",.str o.status.name),("flowId",o.flowId),
    ("createdAt",.str o.createdAt.text),("updatedAt",.str o.updatedAt.text)]

theorem toFields_get (o : Order) (name : String) : o.toFields.get? name =
    (o.steadyFields.get? name).or
    ((if "triggeredAt" = name then o.triggeredAt.map fun t => Json.str t.text else none).or
    ((if "completedAt" = name then o.completedAt.map fun t => Json.str t.text else none).or
    ((if "error" = name ∧ o.error.isNull = false then some o.error else none).or
    (if "state" = name ∧ o.stateFields.isEmpty = false then some (.obj o.stateFields) else none)))) := by
  simp only [toFields,steadyFields,Fields.get_append,Fields.get_option,Fields.get_unless,Option.or_assoc]

theorem get_steady {name : String} {v : Json} (held : o.steadyFields.get? name = some v) : o.toFields.get? name = some v := by
  rw [toFields_get,held,Option.some_or]

theorem required_steady {name : String} {v : Json} (held : o.steadyFields.get? name = some v) :
    required name o.toFields = .ok v := by
  rw [required,get_steady held]

theorem given_steady {name : String} {v : Json} (held : o.steadyFields.get? name = some v) : given name o.toFields = v := by
  rw [given,get_steady held,Option.getD_some]

-- A part that is left out is read as null, and so is one that is null.

theorem given_triggered (o : Order) : given "triggeredAt" o.toFields = optTimestamp o.triggeredAt := by
  cases triggered : o.triggeredAt <;> simp [given,toFields_get,steadyFields,Validation.get_cons,Fields.get_nil,triggered,optTimestamp,Json.ofOption]

theorem given_completed (o : Order) : given "completedAt" o.toFields = optTimestamp o.completedAt := by
  cases completed : o.completedAt <;> simp [given,toFields_get,steadyFields,Validation.get_cons,Fields.get_nil,completed,optTimestamp,Json.ofOption]

theorem given_error (o : Order) : given "error" o.toFields = o.error := by
  cases said : o.error <;> simp [given,toFields_get,steadyFields,Validation.get_cons,Fields.get_nil,said,Json.isNull]

theorem given_state (o : Order) (name : String) (read : Json → Except Fault α) :
    partOf name read (given "state" o.toFields) = partOf name read (.obj o.stateFields) := by
  have stands : given "state" o.toFields = if o.stateFields.isEmpty then .null else .obj o.stateFields := by
    cases empty : o.stateFields.isEmpty <;> simp [given,toFields_get,steadyFields,Validation.get_cons,Fields.get_nil,empty]
  rw [stands]
  split
  · rename_i empty
    rw [List.isEmpty_iff.mp empty]
    rfl
  · rfl

theorem ofJson_written (settled : o.params.Settled) (now : Timestamp) : ofJson now o.toJson = .ok o.told := by
  have trailing := (o.given_state "trailing" Trailing.ofJson).trans o.trailing_written
  have schedule := (o.given_state "schedule" Schedule.ofJson).trans o.schedule_written
  have created : readTimestamp (given "createdAt" o.toFields) = .ok (some o.createdAt.told) := by
    rw [given_steady rfl]
    exact readTimestamp_written o.createdAt
  have updated : readTimestamp (given "updatedAt" o.toFields) = .ok (some o.updatedAt.told) := by
    rw [given_steady rfl]
    exact readTimestamp_written o.updatedAt
  have triggered := readTimestamp_option o.triggeredAt
  have completed := readTimestamp_option o.completedAt
  have id : required "id" o.toFields = .ok o.id := required_steady rfl
  have type : required "type" o.toFields = .ok (.str o.kind.name) := required_steady rfl
  have params : required "params" o.toFields = .ok o.params.toJson := required_steady rfl
  have status : required "status" o.toFields = .ok (.str o.status.name) := required_steady rfl
  have flow : o.toFields.get? "flowId" = some o.flowId := get_steady rfl
  obtain ⟨shown,written,read⟩ := Params.parseTagged_settled settled
  rw [written] at params
  simp only [ofJson,toJson,ofFields,trailing,schedule,created,updated,given_triggered,triggered,given_completed,completed,
    given_error,id,type,params,status,flow,kind,read,bind_ok,pure_ok,Option.getD_some,Kind.stored_written,Status.stored_written]
  rfl

end Order

-- Parameters that a check has let through.
def Params.Validated (p : Params) : Prop := ∃ kind fields, ofFields kind fields = .ok p

theorem Params.Validated.settled {p : Params} (validated : p.Validated) : p.Settled := by
  obtain ⟨kind,fields,read⟩ := validated
  exact (ofFields_settled read).2

theorem Params.parseTagged_validated {fields : Fields} {p : Params} (read : parseTagged fields = .ok p) : p.Validated := by
  have tagged := Checked.orFault_eq_ok.mp read
  unfold ofTagged at tagged
  split at tagged
  · simp at tagged
  · split at tagged
    · exact ⟨_,fields,Checked.under_eq_ok.mp tagged⟩
    · simp at tagged

theorem readTimestamp_legible {v : Json} {moment : Option Timestamp} (read : readTimestamp v = .ok moment) :
    ∀ t, moment = some t → t.Legible := by
  rintro t rfl
  unfold readTimestamp at read
  split at read
  · split at read
    · cases read
    · split at read
      · rename_i taken
        cases read
        exact Iso.read_legible taken
      · cases read
  · split at read <;> cases read

theorem Schedule.ofJson_legible {v : Json} {s : Schedule} (read : ofJson v = .ok s) : s.Moments Timestamp.Legible := by
  cases v with
  | obj fields =>
    simp only [ofJson,bind_eq_ok] at read
    obtain ⟨next,readNext,last,readLast,made⟩ := read
    cases made
    exact ⟨readTimestamp_legible readNext,readTimestamp_legible readLast⟩
  | _ => cases read

namespace Order

theorem partOf_some {name : String} {read : Json → Except Fault α} {state : Json} {a : α}
    (found : partOf name read state = .ok (some a)) : ∃ part, read part = .ok a := by
  unfold partOf at found
  split at found
  · cases found
  · cases found
  · rename_i part held
    cases taken : read part with
    | error fault =>
      rw [taken] at found
      cases found
    | ok b =>
      rw [taken] at found
      cases found
      exact ⟨part,taken⟩

theorem getD_legible {moment : Option Timestamp} {now : Timestamp} (held : ∀ t, moment = some t → t.Legible) (legible : now.Legible) :
    (moment.getD now).Legible := by
  cases moment with
  | none => exact legible
  | some t => exact held t rfl

-- An order that was read has checked parameters, and moments that a text can hold.
theorem ofJson_admitted {now : Timestamp} {v : Json} {o : Order} (legible : now.Legible) (read : ofJson now v = .ok o) :
    o.params.Validated ∧ o.Moments Timestamp.Legible := by
  cases v with
  | obj fields =>
    simp only [ofJson,ofFields,bind_eq_ok] at read
    obtain ⟨trailing,-,schedule,readSchedule,created,readCreated,id,-,type,-,-,-,given,-,read⟩ := read
    split at read
    · simp only [bind_eq_ok,pure_ok] at read
      obtain ⟨_,-,params,readParams,_,-,status,-,updated,readUpdated,triggered,readTriggered,completed,readCompleted,made⟩ := read
      cases made
      have createdAt := getD_legible (readTimestamp_legible readCreated) legible
      refine ⟨Params.parseTagged_validated readParams,createdAt,getD_legible (readTimestamp_legible readUpdated) createdAt,
        readTimestamp_legible readTriggered,readTimestamp_legible readCompleted,?_⟩
      rintro s rfl
      obtain ⟨part,taken⟩ := partOf_some readSchedule
      exact Schedule.ofJson_legible taken
    · cases read
  | _ => cases read

end Order

namespace Order

-- A schedule under conditions inside conditions, half done, with a fault to report.
def nested : Fields := [("token",.str "ETH"),("sellToken",.str "USDC"),("amount_per_execution",.str "25"),("interval",.int 90),
  ("conditions",.obj [("operator",.str "or"),("conditions",.arr [
    .obj [("field",.str "price"),("operator",.str "<="),("value",.str "1800")],
    .obj [("operator",.str "AND"),("conditions",.arr [.obj [("field",.str "volume"),("operator",.str "between"),
      ("value",.arr [.int 1,.float 2])]])]])])]

def halfDone (p : Params) (first later : Timestamp) : Order := ⟨.str "order_7",p,.failed,.str "order_7:flow",first,later,some later,none,
  .str "late",none,some ⟨.null,.int 3,some later,some first⟩⟩

theorem nested_read : ∃ p, Params.ofFields .dca nested = .ok p := by
  have accepted : ((Params.ofFields .dca nested).orFault "").toOption.isSome = true := by decide +kernel
  obtain ⟨p,taken⟩ := Option.isSome_iff_exists.mp accepted
  exact ⟨p,Checked.orFault_eq_ok.mp (Checked.toOption_eq_some.mp taken)⟩

end Order
end OrderDesk
