import OrderDesk.Proofs.Desk.Amendment
import OrderDesk.Proofs.Schedule.Check

-- Ticks of a schedule: the flow goes on until the schedule is exhausted, and trades when the next execution is
-- due.
namespace OrderDesk

section
variable {o : Order} {s : Schedule} {snapshot : Snapshot} {now : Timestamp}

-- Nothing is added to the snapshot of a schedule but the fields that are derived from it.
theorem Order.observe_scheduled (scheduled : o.params.terms.scheduled = true) (held : o.schedule = some s) :
    o.observe snapshot now = (s.derived o.params.terms now).map fun fields => (o,Fields.set "schedule" (.obj fields) snapshot) := by
  have untrailed : o.withTrailing snapshot snapshot = .ok (o,snapshot) := by
    have none : o.params.terms.trailing? = none := by
      cases own : o.params.terms with
      | trailingStop terms =>
        rw [own] at scheduled
        cases scheduled
      | _ => rfl
    rw [withTrailing,none]
    cases o.trailing <;> rfl
  have merges : o.withSchedule now snapshot = (s.derived o.params.terms now).map fun fields =>
      Fields.set "schedule" (.obj fields) snapshot := by
    unfold withSchedule
    rw [held]
    exact if_pos scheduled
  rw [observe,untrailed,bind_ok]
  dsimp only
  rw [merges]
  cases s.derived o.params.terms now <;> rfl

-- A snapshot is answered for a schedule that is watched, if the clock can be compared with its moments.
theorem Tick.decide_scheduled (scheduled : o.params.terms.scheduled = true) (held : o.schedule = some s) (typed : s.Typed)
    (watched : o.status = .active ∨ o.status = .triggered) (plain : o.trailing = none) (clocked : s.Clocked o.params.terms now)
    (id : Json) : ∃ merged, (decide id snapshot now (some o)).answer? = some (some merged) := by
  obtain ⟨fields,derived⟩ := Schedule.derived_made typed clocked
  have seen : o.observe snapshot now = .ok (o,Fields.set "schedule" (.obj fields) snapshot) := by
    rw [Order.observe_scheduled scheduled held,derived]
    rfl
  obtain ⟨ended,ends⟩ : ∃ ended, expired o now = .ok ended := by
    obtain ⟨ended,exhausts⟩ := Schedule.exhausted_made typed clocked.last
    unfold expired Order.schedule?
    rw [if_pos scheduled,held]
    split
    · exact ⟨ended,exhausts⟩
    · exact ⟨false,rfl⟩
  refine ⟨Fields.set "schedule" (.obj fields) snapshot,?_⟩
  rw [decide,if_pos watched,observed,seen]
  simp only [plain,rose,ends]
  exact Decision.answer_kept

end

-- What the checks of a flow find in a snapshot that was merged for a schedule: the one goes on as long as the schedule is
-- not exhausted, the other trades when an execution is due.
structure Order.Paced (o : Order) (s : Schedule) (ended : Bool) (now : Timestamp) (merged : Snapshot) (f : Flow) : Prop where
  remaining : ∃ g, f.Asks (Draft.nodeId o.id "check-remaining") g ∧ (s.Fits → g.evaluate merged = .ok !ended)
  leaves : ∃ last, f.next? (Draft.nodeId o.id "check-remaining") (some false) = some last ∧ f.Plays last .terminal
  stays : f.next? (Draft.nodeId o.id "check-remaining") (some true) = some (Draft.nodeId o.id "check-schedule")
  due : ∃ g, f.Asks (Draft.nodeId o.id "check-schedule") g ∧ (g.evaluate merged = .ok true ↔
    (∀ due, s.nextDue = some due → due.Precedes now) ∧
      ∀ extra, o.params.terms.conditions? = some extra → extra.evaluate merged = .ok true)

theorem Order.Loops.paced {o : Order} {f : Flow} {s : Schedule} {ended : Bool} {now : Timestamp} {fields : Fields} (loops : o.Loops f)
    (typed : s.Typed) (exhausts : s.exhausted o.params.terms now = .ok ended) (derived : s.derived o.params.terms now = .ok fields)
    (snapshot : Snapshot) : o.Paced s ended now (Fields.set "schedule" (.obj fields) snapshot) f := by
  obtain ⟨own,seconds,same,waited,dueField,remainingField⟩ := Schedule.derived_fields derived
  cases exhausts.symm.trans same
  refine ⟨⟨_,loops.remaining,?_⟩,loops.leaves,loops.stays,⟨_,loops.due,?_⟩⟩
  · intro fits
    rw [← Template.remaining_derived typed fits exhausts remainingField snapshot]
    exact Node.evaluateAll_single _ (.leaf Template.remaining)
  · rw [Template.withExtra_true,Template.due_derived dueField,← Schedule.untilDue_zero waited,Except.ok.injEq]

namespace Desk

theorem visit_answer {d : Desk} {v : Visit} {id : String} {snapshot : Snapshot} (asked : v.call = .prepare id snapshot) :
    (d.visit v).2 = .prepared (Desk.prepare {d with clock := v.now} (.str id) snapshot).2 := by
  rw [visit,asked,perform]

-- What a session does with the ticks of its schedules.
structure Paces (d : Desk) (visits : List Visit) : Prop where
  paced : ∀ earlier v later, visits = earlier ++ v :: later → ∀ id snapshot, v.call = .prepare id snapshot →
    ∀ o merged, (d.run earlier).stored id = some o → o.params.terms.scheduled = true →
    ((d.run earlier).visit v).2 = .prepared (.ok (some merged)) →
    ∃ s ended, o.schedule = some s ∧ s.exhausted o.params.terms v.now = .ok ended ∧
      (∀ defaults now f, o.flow defaults now = .ok f → o.Paced s ended v.now merged f) ∧
      ((∀ plan, o.params.terms = .twap plan → (Number.int plan.slices).toFloat?.isSome = true) →
        ∀ defaults now, ∃ f, o.flow defaults now = .ok f)
  answered : ∀ earlier v later, visits = earlier ++ v :: later → ∀ id snapshot, v.call = .prepare id snapshot →
    ∀ o s, (d.run earlier).stored id = some o → (o.status = .active ∨ o.status = .triggered) →
    o.params.terms.scheduled = true → o.trailing = none → o.schedule = some s → s.Clocked o.params.terms v.now →
    ∃ merged, ((d.run earlier).visit v).2 = .prepared (.ok (some merged))

theorem run_paces {d : Desk} {visits : List Visit} (stocked : d.Stocked visits) : d.Paces visits := by
  constructor
  · intro earlier v later split id snapshot asked o merged stored scheduled answer
    obtain ⟨ready,typed⟩ := run_stocked stocked split
    obtain ⟨s,held,kind⟩ := (typed id o stored).schedule scheduled
    have settled := (ready.orders id o stored).1.params
    rw [visit_answer asked] at answer
    obtain ⟨after,seen⟩ := prepare_observes (ready.timed v.now) stored (Response.prepared.inj answer)
    rw [Order.observe_scheduled scheduled held] at seen
    cases derived : s.derived o.params.terms v.now with
    | error fault =>
      rw [derived] at seen
      cases seen
    | ok fields =>
      rw [derived] at seen
      cases seen
      obtain ⟨ended,-,exhausts,-⟩ := Schedule.derived_fields derived
      refine ⟨s,ended,held,exhausts,?_,?_⟩
      · intro defaults now f made
        exact (Order.scheduled_loops settled scheduled made).paced kind exhausts derived snapshot
      · intro counted defaults now
        exact Order.flow_counted settled counted defaults now
  · intro earlier v later split id snapshot asked o s stored watched scheduled plain held clocked
    obtain ⟨ready,typed⟩ := run_stocked stocked split
    obtain ⟨own,same,kind⟩ := (typed id o stored).schedule scheduled
    cases held.symm.trans same
    obtain ⟨merged,decided⟩ := Tick.decide_scheduled scheduled held kind watched plain clocked (.str id)
    rw [← stored] at decided
    have prepared := prepare_answers (ready.timed v.now) (ready.clocks v List.mem_cons_self) decided
    exact ⟨merged,by rw [visit_answer asked,prepared]⟩

-- Two purchases, one made, that somebody says is the last one.
def halfway : List Visit := [
  ⟨.origin,.create (.str "dca") (.obj [("token",.str "ETH"),("sellToken",.str "USDC"),("amountPerExecution",.int 25),
    ("interval",.str "daily"),("maxExecutions",.int 2)])⟩,
  ⟨.origin,.recordExecution "order_1"⟩,
  ⟨.epoch,.prepare "order_1" [("schedule",.obj [("remainingExecutions",.int 0)])]⟩]

theorem halfway_paces : (vacant .memory).Stocked halfway ∧ (vacant .memory).Paces halfway :=
  ⟨opened_stocked (vacant_opened fun _ _ => trivial),run_paces (opened_stocked (vacant_opened fun _ _ => trivial))⟩

end Desk
end OrderDesk
