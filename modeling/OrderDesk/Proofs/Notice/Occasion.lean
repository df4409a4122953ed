import OrderDesk.Proofs.Desk.Execution
import OrderDesk.Proofs.Notice.Rendering

-- What there is to tell of an order: one event or two for each call that did what it was asked for, by the
-- order before the call and after it. That the order triggered is told once, when it is stamped.
namespace OrderDesk

-- The events that tell of a trigger.
def Event.triggers : Event → Bool
  | stopLossTriggered | takeProfitTriggered | conditionalSellTriggered | conditionalBuyTriggered | trailingStopTriggered
  | dualProtectionTriggered | lowerTriggered | upperTriggered | orderTriggered => true
  | _ => false

-- Whether a mark that was set before has risen.
def Trailing.lifted (before after : Option Trailing) : Bool :=
  match before,after with
  | some ⟨.float old⟩,some ⟨.float high⟩ => (Number.float high).gt (.float old)
  | _,_ => false

-- Whether no execution is left.
def Order.claimed (o : Order) : Bool :=
  match o.schedule.map Schedule.remaining with
  | some (.int n) => n == 0
  | _ => false

-- What a call tells of the order it names, as it was and as it is. A call that is refused or fails tells nothing.
def Call.tells (before : Order) (after : Option Order) : Call → Response → List Event
  | activate _,.done (.ok true) | resume _,.done (.ok true) => [if before.status = .paused then .orderResumed else .orderActivated]
  | pause _,.done (.ok true) => [.orderPaused]
  | cancel _,.done (.ok true) => [.orderCancelled]
  | updateStatus _ status _ branch,.done (.ok true) =>
    (Status.ofJson? (.str status)).toList.map fun target => .ofStatus before.kind target (some before.status) branch
  | recordExecution _,.done (.ok true) =>
    .ofSlice before.kind :: if after.any Order.claimed then [.ofTrigger before.kind none] else []
  | prepare _ _,.prepared (.ok (some _)) =>
    (if Trailing.lifted before.trailing (after.bind Order.trailing) then [.trailingStopUpdated] else []) ++
      if before.status = .active ∧ after.map Order.status = some .triggered then [.ofTrigger before.kind none] else []
  | _,_ => []

-- What a visit tells, with the ids of the orders.
def Desk.occasions (d : Desk) (v : Visit) : List (String × Event) :=
  match v.call.subject?,(d.visit v).2 with
  | none,.created (.ok creation) => (d.idAt 0,.ofCreation creation.order.kind) ::
      if creation.order.status = .active then [(d.idAt 0,.orderActivated)] else []
  | some id,response =>
    (d.stored id).toList.flatMap fun before => (v.call.tells before ((d.visit v).1.stored id) response).map (id,·)
  | _,_ => []

namespace Event

theorem ofName_name (event : Event) : ofName? event.name = some event := by
  cases event <;> decide +kernel

theorem ofTrigger_triggers (kind : Kind) (branch : Option String) : (ofTrigger kind branch).triggers = true := by
  unfold ofTrigger
  split <;> first | rfl | (split <;> rfl)

theorem ofCreation_triggers (kind : Kind) : (ofCreation kind).triggers = false := by
  cases kind <;> rfl

theorem ofSlice_triggers (kind : Kind) : (ofSlice kind).triggers = false := by
  unfold ofSlice
  split <;> rfl

-- Only the event of the one status tells of a trigger.
theorem ofStatus_triggers (kind : Kind) (status : Status) (previous : Option Status) (branch : Option String) :
    (ofStatus kind status previous branch).triggers = decide (status = .triggered) := by
  cases status with
  | created => exact ofCreation_triggers kind
  | active =>
    simp only [ofStatus]
    split <;> rfl
  | completed =>
    simp only [ofStatus]
    split <;> rfl
  | triggered => exact ofTrigger_triggers kind branch
  | _ => rfl

end Event

namespace Trailing

theorem lifted_same (t : Option Trailing) : lifted t t = false := by
  unfold lifted
  split
  · exact Number.gt_self _
  · rfl

theorem rose_lifted {before after : Option Trailing} (typed : ∀ t, before = some t → t.Typed)
    (typedAfter : ∀ t, after = some t → t.Typed) : Tick.rose before after = .ok (lifted before after) := by
  cases before with
  | none => rfl
  | some t =>
    obtain ⟨mark⟩ := t
    cases after with
    | none => cases mark <;> rfl
    | some next =>
      obtain ⟨high⟩ := next
      rcases typed _ rfl with none | ⟨x,float⟩
      · cases none
        rfl
      · cases float
        rcases typedAfter _ rfl with none | ⟨y,float⟩
        · cases none
          rfl
        · cases float
          rfl

end Trailing

-- What a decision announces.

def Announcement.event? : Announcement → Option Event
  | entry _ => none
  | notice event => some event

section
variable {now : Timestamp} {o after : Order}

theorem Move.decide_tells {m : Move} (id : Json) (now : Timestamp) (allowed : m.allows o.status = true) :
    ∃ announcements, m.decide id now (some o) = .store (m.apply now o) (some (m.apply now o)) announcements ∧
      announcements.filterMap Announcement.event? = [.ofStatus o.kind m.target (some o.status) m.branch] :=
  ⟨_,if_pos allowed,rfl⟩

theorem Execution.Takes.decides {before later : Schedule} {last : Bool} (takes : Takes now o after before later last) (id : Json) :
    ∃ announcements, decide id now (some o) = .store after true announcements ∧
      announcements.filterMap Announcement.event? = .ofSlice o.kind :: if last then [.ofTrigger o.kind none] else [] := by
  have scheduled : o.schedule? = some before := by rw [Order.schedule?,if_pos takes.scheduled,takes.held]
  rw [takes.record,decide,if_pos takes.active,scheduled]
  simp only [take,takes.remains,takes.advanced,takes.counted]
  cases last with
  | true => exact ⟨_,rfl,rfl⟩
  | false => exact ⟨_,rfl,rfl⟩

theorem Tick.Sees.decides {snapshot merged : Snapshot} {trailing : Option Trailing} {ended higher : Bool}
    {answer : Option Snapshot} {announcements : List Announcement} (sees : Sees snapshot now o after merged trailing ended) {id : Json}
    (rises : rose o.trailing trailing = .ok higher) (decided : decide id snapshot now (some o) = .store after answer announcements) :
    announcements.filterMap Announcement.event? =
      (if higher then [.trailingStopUpdated] else []) ++ if ended then [.ofTrigger o.kind none] else [] := by
  rw [decide,if_pos sees.watched,Tick.observed,sees.observed] at decided
  simp only [rises,sees.ends] at decided
  have announced (written : Order) (state : Bool)
      (made : (if state then .store written (some merged) (followed id written higher ++ Tick.ended id written ended)
        else .keep (some merged) []) = Decision.store after answer announcements) :
      announcements = followed id after higher ++ Tick.ended id after ended := by
    cases state with
    | true =>
      cases made
      rfl
    | false => cases made
  have kind : after.kind = o.kind := congrArg Params.kind sees.lasts.params
  rw [announced _ _ decided,List.filterMap_append,← kind]
  cases higher <;> cases ended <;> rfl

-- An execution is the last one just when none is left.
theorem Execution.Takes.claims {before later : Schedule} {last : Bool} (takes : Takes now o after before later last)
    (typed : o.Typed) : after.claimed = last := by
  have held : after.schedule = some later := by
    rw [takes.record]
    split <;> rfl
  obtain ⟨s,stored,kind⟩ := typed.schedule takes.scheduled
  cases takes.held.symm.trans stored
  obtain ⟨remains,-⟩ := Schedule.exhausted_false takes.remains
  obtain ⟨remaining,done,length,due,counted,-,-,-,rfl⟩ := Schedule.advance_record takes.advanced
  have ends : Schedule.usedUp remaining = .ok last := takes.counted
  rw [Order.claimed,held]
  rcases kind with none | ⟨n,number⟩
  · rw [none] at counted
    cases counted
    exact Except.ok.inj ends
  · rw [number,Schedule.usedUp_int] at remains
    rw [number] at counted
    have stepped : remaining = .int (n + -1) := (Except.ok.inj counted).symm
    have above : ¬ n ≤ 0 := of_decide_eq_false (Except.ok.inj remains)
    subst stepped
    rw [Schedule.usedUp_int] at ends
    rw [← Except.ok.inj ends]
    simp only [Option.map_some,beq_eq_decide]
    exact decide_eq_decide.mpr (by omega)

end

section
variable {now : Timestamp} {call : Call} {response : Response} {before after : Order}

theorem Call.tells_idle (before : Order) (call : Call) (idle : response.succeeded = false) :
    call.tells before (some before) response = [] := by
  unfold tells
  split
  iterate 6 cases idle
  · simp [Trailing.lifted_same]
    intro active same
    cases active.symm.trans same
  · rfl

-- A trigger is told by the call that triggers the order, and by no other.
theorem Effect.tells_trigger (effect : Effect now call response (some before) (some after)) (typed : before.Typed) :
    (call.tells before (some after) response).countP Event.triggers =
      if after.status ≠ before.status ∧ after.status = .triggered then 1 else 0 := by
  cases effect with
  | kept idle =>
    rw [Call.tells_idle before call idle]
    simp
  | moved asked allowed =>
    rename_i m
    have differs := Status.canMove_differs (Move.allows_edge allowed)
    simp only [Move.apply_status,ne_eq,differs,not_false_eq_true,true_and]
    cases call with
    | activate id | resume id =>
      cases asked
      simp only [Call.tells]
      split <;> rfl
    | pause id | cancel id =>
      cases asked
      rfl
    | updateStatus id status error branch =>
      simp only [Call.move?] at asked
      simp only [Call.tells]
      cases named : Status.ofJson? (.str status) with
      | none =>
        rw [named] at asked
        cases asked
      | some target =>
        rw [named] at asked
        dsimp only at asked
        split at asked
        · cases asked
          by_cases triggers : target = .triggered <;> simp [Event.ofStatus_triggers,triggers]
        · cases asked
    | _ => cases asked
  | flagged asked allowed =>
    rw [asked,Move.apply_record]
    exact (if_neg fun triggers => by cases triggers.2).symm
  | executed asked takes =>
    rename_i id first later last
    have claims : after.claimed = last := takes.claims typed
    rw [asked,takes.record]
    rw [takes.record] at claims
    simp only [Call.tells,Option.any_some,claims]
    cases last with
    | true => simp [Event.ofSlice_triggers,Event.ofTrigger_triggers,takes.active]
    | false => simp [Event.ofSlice_triggers]
  | observed asked sees =>
    rename_i id snapshot merged trailing ended
    have ends := sees.ends
    have updated : Event.trailingStopUpdated.triggers = false := rfl
    rw [asked,sees.record]
    simp only [Call.tells,Option.bind_some,Option.map_some,Option.some.injEq]
    cases ended with
    | true =>
      have active : before.status = .active := Tick.expired_active ends
      simp only [if_true,active,true_and,List.countP_append]
      split <;> simp [updated,Event.ofTrigger_triggers]
    | false =>
      have quiet : ¬ (before.status = .active ∧ before.status = .triggered) := by
        rintro ⟨active,triggered⟩
        cases active.symm.trans triggered
      simp only [Bool.false_eq_true,if_false,if_neg quiet,List.append_nil]
      split <;> simp [updated]

end

namespace Desk

-- The events of a visit that tell of the trigger of one order.
def triggersTold (id : String) (d : Desk) (v : Visit) : List (String × Event) :=
  (d.occasions v).filter fun occasion => occasion.1 == id && occasion.2.triggers

section
variable {d : Desk} {v : Visit} {visits : List Visit} {id : String}

theorem occasions_named (id : String) (named : v.call.subject? = some id) : d.occasions v =
    (d.stored id).toList.flatMap fun before => (v.call.tells before ((d.visit v).1.stored id) (d.visit v).2).map (id,·) := by
  rw [occasions,named]

theorem triggersTold_apart (apart : v.call.subject? ≠ some id) : d.triggersTold id v = [] := by
  refine List.filter_eq_nil_iff.mpr ?_
  cases named : v.call.subject? with
  | some own =>
    have differs : own ≠ id := fun same => apart (same ▸ named)
    rw [occasions_named own named]
    intro occasion member
    obtain ⟨before,-,member⟩ := List.mem_flatMap.mp member
    obtain ⟨event,-,rfl⟩ := List.mem_map.mp member
    simp [differs]
  | none =>
    rw [occasions,named]
    cases answer : (d.visit v).2 with
    | created result =>
      cases result with
      | error fault => simp
      | ok creation =>
        have active : Event.orderActivated.triggers = false := rfl
        intro occasion member
        rcases List.mem_cons.mp member with rfl | rest
        · simp [Event.ofCreation_triggers]
        · split at rest
          · cases List.mem_singleton.mp rest
            simp [active]
          · cases rest
    | _ => simp

-- The trigger of an order is told once if it is stamped, and not before.
theorem triggersTold_telling (id : String) : Telling id (triggersTold id) (fun _ => True)
    (fun o told => o.Stamped ∧ o.Typed ∧ told.length = if o.triggeredAt.isSome then 1 else 0) := by
  constructor
  · intro now o new
    refine ⟨new.stamped,new.typed,?_⟩
    rw [new.triggeredAt]
    rfl
  · rintro d v visits before after told ready - subject stored seen ⟨stamped,typed,counted⟩
    have effect := visit_named ready subject
    rw [stored,seen] at effect
    have events : (d.triggersTold id v).length = if after.status ≠ before.status ∧ after.status = .triggered then 1 else 0 := by
      rw [← effect.tells_trigger typed,triggersTold,occasions_named id subject,stored,seen]
      simp [List.countP_eq_length_filter,List.filter_map,Function.comp_def]
    refine ⟨(stamped.next effect.lasts effect.restamped).1,effect.typed typed,?_⟩
    rw [List.length_append,counted,events,effect.restamped.triggered]
    by_cases triggers : after.status ≠ before.status ∧ after.status = .triggered
    · have edge := effect.edge.resolve_left triggers.1
      rw [triggers.2] at edge
      have fresh := stamped.triggered
      rw [(Status.triggered_waits edge).1] at fresh
      rw [if_pos triggers,if_pos triggers,fresh]
      rfl
    · rw [if_neg triggers,if_neg triggers]
      rfl
  · exact triggersTold_apart
  · intro d v visits ready subject gone
    rw [triggersTold,occasions_named id subject,gone]
    rfl

end
end Desk
end OrderDesk
