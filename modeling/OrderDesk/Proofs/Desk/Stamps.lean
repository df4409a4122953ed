import OrderDesk.Proofs.Desk.Transitions
import OrderDesk.Proofs.Order.Terms

-- The stamps of an order: each is set with the status it stands for and never again, in the order of time, and
-- what an order was created with stays.
namespace OrderDesk

namespace Timestamp

-- Moments that can be compared, the first not after the second.
def Precedes (a b : Timestamp) : Prop := a.comparable b = true ∧ a.instant ≤ b.instant

theorem Precedes.refl (t : Timestamp) : t.Precedes t := ⟨beq_self_eq_true _,Int.le_refl _⟩

theorem Precedes.trans {a b c : Timestamp} (first : a.Precedes b) (second : b.Precedes c) : a.Precedes c := by
  refine ⟨?_,Int.le_trans first.2 second.2⟩
  rw [comparable,eq_of_beq first.1,eq_of_beq second.1]
  exact beq_self_eq_true _

-- A later moment in the place of the last one, once or twice.
theorem Precedes.last (earlier : List Timestamp) {t now : Timestamp} (ordered : (earlier ++ [t]).Pairwise Precedes)
    (present : t.Precedes now) : (earlier ++ [now]).Pairwise Precedes ∧ (earlier ++ [now,now]).Pairwise Precedes := by
  obtain ⟨front,-,before⟩ := List.pairwise_append.mp ordered
  have up_to : ∀ s ∈ earlier, s.Precedes now := fun s member => (before s member t List.mem_cons_self).trans present
  refine ⟨List.pairwise_append.mpr ⟨front,List.pairwise_singleton _ _,?_⟩,List.pairwise_append.mpr ⟨front,?_,?_⟩⟩
  · intro s member u last
    rw [List.mem_singleton.mp last]
    exact up_to s member
  · simp [Precedes.refl]
  · intro s member u last
    have same : u = now := by simpa using last
    rw [same]
    exact up_to s member

end Timestamp

namespace Status

theorem triggered_waits {current : Status} (edge : current.canMove .triggered = true) :
    current.fromRuntime = false ∧ current.concluded = false := by
  cases current <;> first | exact ⟨rfl,rfl⟩ | cases edge

theorem concluded_iff {status : Status} : status.concluded = true ↔ status = .completed ∨ status = .failed := by
  cases status <;> simp [concluded]

theorem canMove_differs {current target : Status} (edge : current.canMove target = true) : target ≠ current := by
  rintro rfl
  cases target <;> cases edge

theorem concluded_traded {status : Status} (concludes : status.concluded = true) : status.fromRuntime = true := by
  cases status <;> first | rfl | cases concludes

theorem concluded_triggers {current target : Status} (concludes : target.concluded = true)
    (edge : current.canMove target = true) : current = .triggered := by
  cases current <;> cases target <;> first | rfl | exact absurd edge (by decide) | cases concludes

-- Moves that stamp nothing stay among the statuses without stamps.
theorem unstamped {current target : Status} (edge : current.canMove target = true) (plain : target ≠ .triggered)
    (going : target.concluded = false) : target.fromRuntime = current.fromRuntime ∧ target.concluded = current.concluded := by
  cases current <;> cases target <;> first | exact ⟨rfl,rfl⟩ | exact absurd edge (by decide) | exact absurd rfl plain | cases going

end Status

namespace Order

structure Stamped (o : Order) : Prop where
  triggered : o.triggeredAt.isSome = o.status.fromRuntime
  completed : o.completedAt.isSome = o.status.concluded
  trailing : o.trailing.isSome = true ↔ o.params.kind = .trailingStop
  schedule : o.schedule.isSome = true ↔ o.params.kind = .dca ∨ o.params.kind = .twap

-- What is stamped when a status is reached.
structure Restamped (now : Timestamp) (before after : Order) : Prop where
  edge : after.status = before.status ∨ before.status.canMove after.status = true
  triggered : after.triggeredAt = if after.status ≠ before.status ∧ after.status = .triggered then some now else before.triggeredAt
  completed : after.completedAt =
    if after.status ≠ before.status ∧ after.status.concluded = true then some now else before.completedAt
  updated : after.updatedAt = now ∨ after.updatedAt = before.updatedAt ∧ after.status = before.status

end Order

theorem Move.apply_restamped {m : Move} {o : Order} (now : Timestamp) (allowed : m.allows o.status = true) :
    o.Restamped now (m.apply now o) := by
  have edge := Move.allows_edge allowed
  have differs := Status.canMove_differs edge
  rw [apply_record]
  refine ⟨Or.inr edge,?_,?_,Or.inl rfl⟩
  · simp [differs]
  · simp [differs,Status.concluded_iff]

section
variable {now : Timestamp} {o after : Order}

theorem Execution.Takes.restamped {before later : Schedule} {last : Bool} (takes : Takes now o after before later last) :
    o.Restamped now after := by
  rw [takes.record]
  cases last with
  | true =>
    refine ⟨Or.inr ?_,?_,?_,Or.inl rfl⟩
    · rw [takes.active]
      rfl
    · simp [takes.active]
    · simp [Status.concluded]
  | false =>
    refine ⟨Or.inl rfl,?_,?_,Or.inl rfl⟩
    · simp
    · simp

theorem Tick.Sees.restamped {snapshot merged : Snapshot} {trailing : Option Trailing} {ended : Bool}
    (sees : Sees snapshot now o after merged trailing ended) : o.Restamped now after := by
  have ends := sees.ends
  rw [sees.record]
  cases ended with
  | true =>
    have active : o.status = .active := Tick.expired_active ends
    refine ⟨Or.inr ?_,?_,?_,Or.inl rfl⟩
    · rw [active]
      rfl
    · simp [active]
    · simp [Status.concluded]
  | false =>
    refine ⟨Or.inl rfl,?_,?_,Or.inr ⟨rfl,rfl⟩⟩
    · simp
    · simp

end

theorem Effect.restamped {now : Timestamp} {call : Call} {response : Response} {before after : Order}
    (effect : Effect now call response (some before) (some after)) : before.Restamped now after := by
  cases effect with
  | kept idle => exact ⟨Or.inl rfl,by simp,by simp,Or.inr ⟨rfl,rfl⟩⟩
  | moved asked allowed => exact Move.apply_restamped now allowed
  | flagged asked allowed =>
    have moved := Move.apply_restamped now allowed
    exact ⟨moved.edge,moved.triggered,moved.completed,Or.inl rfl⟩
  | executed asked takes => exact takes.restamped
  | observed asked sees => exact sees.restamped

namespace Order

-- The stamps that are present, as they should follow each other.
def stamps (o : Order) : List Timestamp := o.createdAt :: (o.triggeredAt.toList ++ o.completedAt.toList ++ [o.updatedAt])

structure Ordered (o : Order) (later : List Visit) : Prop where
  stamps : o.stamps.Pairwise Timestamp.Precedes
  updated : ∀ v ∈ later, o.updatedAt.Precedes v.now

-- An order that lasts, with the stamps it has.
structure Continues (before after : Order) : Prop extends before.Lasts after where
  triggered : ∀ t, before.triggeredAt = some t → after.triggeredAt = some t
  completed : ∀ t, before.completedAt = some t → after.completedAt = some t

theorem Continues.refl (o : Order) : o.Continues o := ⟨Lasts.refl o,fun _ held => held,fun _ held => held⟩

theorem Continues.trans {first second third : Order} (before : first.Continues second) (after : second.Continues third) :
    first.Continues third :=
  ⟨before.toLasts.trans after.toLasts,fun t held => after.triggered t (before.triggered t held),
    fun t held => after.completed t (before.completed t held)⟩

theorem New.stamped {id : String} {now : Timestamp} {o : Order} (new : o.New id now) : o.Stamped := by
  have idle : o.status.fromRuntime = false ∧ o.status.concluded = false := by
    rcases new.status with created | active
    · rw [created]
      exact ⟨rfl,rfl⟩
    · rw [active]
      exact ⟨rfl,rfl⟩
  refine ⟨?_,?_,?_,?_⟩
  · rw [new.triggeredAt,idle.1]
    rfl
  · rw [new.completedAt,idle.2]
    rfl
  · rw [new.trailing,Params.kind]
    cases o.params.terms <;> simp [initialTrailing,Terms.trailing?,Terms.kind]
  · rw [new.schedule,Params.kind]
    cases o.params.terms <;> simp [initialSchedule,Terms.kind]

theorem New.ordered {id : String} {now : Timestamp} {o : Order} (new : o.New id now) {later : List Visit}
    (forward : ∀ v ∈ later, now.Precedes v.now) : o.Ordered later := by
  refine ⟨?_,?_⟩
  · rw [stamps,new.createdAt,new.triggeredAt,new.completedAt,new.updatedAt]
    simp [Timestamp.Precedes.refl]
  · rw [new.updatedAt]
    exact forward

section
variable {now : Timestamp} {before after : Order}

-- Nothing is stamped, or the trigger is, or the end of a triggered order is.
theorem Restamped.cases (stamped : before.Stamped) (restamped : before.Restamped now after) :
    (after.triggeredAt = before.triggeredAt ∧ after.completedAt = before.completedAt ∧
      after.status.fromRuntime = before.status.fromRuntime ∧ after.status.concluded = before.status.concluded) ∨
    (after.status = .triggered ∧ before.triggeredAt = none ∧ before.completedAt = none ∧ after.triggeredAt = some now ∧
      after.completedAt = none ∧ after.updatedAt = now) ∨
    (after.status.concluded = true ∧ before.completedAt = none ∧ after.completedAt = some now ∧ after.updatedAt = now ∧
      ∃ t, before.triggeredAt = some t ∧ after.triggeredAt = some t) := by
  have triggered := restamped.triggered
  have completed := restamped.completed
  rcases restamped.edge with same | edge
  · rw [same] at triggered completed ⊢
    exact Or.inl ⟨by simpa using triggered,by simpa using completed,rfl,rfl⟩
  · have differs := Status.canMove_differs edge
    have updated : after.updatedAt = now := restamped.updated.resolve_right fun kept => differs kept.2
    have triggeredBefore := stamped.triggered
    have completedBefore := stamped.completed
    by_cases triggers : after.status = .triggered
    · obtain ⟨waits,unfinished⟩ := Status.triggered_waits (triggers ▸ edge)
      rw [waits] at triggeredBefore
      rw [unfinished] at completedBefore
      have fresh := Option.isSome_eq_false_iff.mp completedBefore |> Option.isNone_iff_eq_none.mp
      refine Or.inr (Or.inl ⟨triggers,?_,fresh,?_,?_,updated⟩)
      · exact Option.isSome_eq_false_iff.mp triggeredBefore |> Option.isNone_iff_eq_none.mp
      · rw [triggered,if_pos ⟨differs,triggers⟩]
      · rw [completed,triggers,fresh]
        simp [Status.concluded]
    · rw [if_neg fun both => triggers both.2] at triggered
      cases concludes : after.status.concluded with
      | true =>
        have triggersFirst := Status.concluded_triggers concludes edge
        rw [triggersFirst] at triggeredBefore completedBefore
        obtain ⟨t,held⟩ := Option.isSome_iff_exists.mp triggeredBefore
        rw [if_pos ⟨differs,concludes⟩] at completed
        refine Or.inr (Or.inr ⟨rfl,?_,completed,updated,t,held,triggered.trans held⟩)
        exact Option.isSome_eq_false_iff.mp completedBefore |> Option.isNone_iff_eq_none.mp
      | false =>
        have plain := Status.unstamped edge triggers concludes
        rw [concludes] at completed plain
        exact Or.inl ⟨triggered,by simpa using completed,plain⟩

theorem Stamped.next (stamped : before.Stamped) (lasts : before.Lasts after) (restamped : before.Restamped now after) :
    after.Stamped ∧ before.Continues after := by
  have parts : (after.trailing.isSome = true ↔ after.params.kind = .trailingStop) ∧
      (after.schedule.isSome = true ↔ after.params.kind = .dca ∨ after.params.kind = .twap) := by
    rw [lasts.trailing,lasts.schedule,lasts.params]
    exact ⟨stamped.trailing,stamped.schedule⟩
  rcases restamped.cases stamped with ⟨triggered,completed,traded,concluded⟩ |
      ⟨status,fresh,unfinished,triggered,completed,-⟩ | ⟨concludes,unfinished,completed,-,t,held,triggered⟩
  · refine ⟨⟨?_,?_,parts.1,parts.2⟩,lasts,?_,?_⟩
    · rw [triggered,traded]
      exact stamped.triggered
    · rw [completed,concluded]
      exact stamped.completed
    · rw [triggered]
      exact fun _ held => held
    · rw [completed]
      exact fun _ held => held
  · refine ⟨⟨?_,?_,parts.1,parts.2⟩,lasts,?_,?_⟩
    · rw [triggered,status]
      rfl
    · rw [completed,status]
      rfl
    · simp [fresh]
    · simp [unfinished]
  · refine ⟨⟨?_,?_,parts.1,parts.2⟩,lasts,?_,?_⟩
    · rw [triggered,Status.concluded_traded concludes]
      rfl
    · rw [completed,concludes]
      rfl
    · rw [held,triggered]
      exact fun _ held => held
    · simp [unfinished]

theorem Ordered.next {v : Visit} {later : List Visit} (ordered : before.Ordered (v :: later)) (stamped : before.Stamped)
    (forward : ∀ w ∈ later, v.now.Precedes w.now) (lasts : before.Lasts after) (restamped : before.Restamped v.now after) :
    after.Ordered later := by
  have updates : after.updatedAt = v.now ∨ after.updatedAt = before.updatedAt :=
    restamped.updated.imp_right fun kept => kept.1
  have present := ordered.updated v List.mem_cons_self
  have createdAt := lasts.createdAt
  refine ⟨?_,?_⟩
  · have stamps := ordered.stamps
    unfold Order.stamps at stamps ⊢
    rw [createdAt]
    rcases restamped.cases stamped with ⟨triggered,completed,-,-⟩ | ⟨-,fresh,unfinished,triggered,completed,updated⟩ |
        ⟨-,unfinished,completed,updated,t,held,triggered⟩
    · rw [triggered,completed]
      rcases updates with now | kept
      · rw [now]
        exact (Timestamp.Precedes.last (_ :: _) stamps present).1
      · rwa [kept]
    · rw [triggered,completed,updated]
      rw [fresh,unfinished] at stamps
      exact (Timestamp.Precedes.last [_] stamps present).2
    · rw [triggered,completed,updated]
      rw [held,unfinished] at stamps
      exact (Timestamp.Precedes.last [_,_] stamps present).2
  · rcases updates with now | kept
    · rw [now]
      exact forward
    · rw [kept]
      exact fun w member => ordered.updated w (List.mem_cons_of_mem v member)

end

end Order

namespace Desk

-- The visit of a session that made an order, and the order as it is since.
structure Made (d : Desk) (first : List Visit) (v : Visit) (creation : Creation) (id : String) (o : Order) : Prop where
  creates : v.call.creates = true
  named : id = (d.run first).idAt 0
  answer : ((d.run first).visit v).2 = .created (.ok creation)
  stored : ((d.run first).visit v).1.stored id = some creation.order
  new : creation.order.New id v.now
  continues : creation.order.Continues o

-- The clock never goes backwards.
def Forward (visits : List Visit) : Prop := visits.Pairwise fun v w => v.now.Precedes w.now

section
variable {d : Desk} {v : Visit} {visits : List Visit} {id : String} {o : Order}

-- Where an order comes from: from the order that was stored, or from its creation.
theorem visit_origin (ready : d.Ready (v :: visits)) (seen : (d.visit v).1.stored id = some o) :
    (∃ before, d.stored id = some before ∧ before.Lasts o ∧ before.Restamped v.now o) ∨
      ∃ creation, d.Made [] v creation id o := by
  rcases visit_before ready seen with ⟨before,held,rfl | effect⟩ | ⟨creates,first,-,creation,answer,same,new⟩
  · exact Or.inl ⟨before,held,Order.Lasts.refl before,⟨Or.inl rfl,by simp,by simp,Or.inr ⟨rfl,rfl⟩⟩⟩
  · exact Or.inl ⟨before,held,effect.lasts,effect.restamped⟩
  · subst same
    exact Or.inr ⟨creation,creates,first,answer,seen,new,Order.Continues.refl _⟩

theorem visit_stamped (ready : d.Ready (v :: visits)) (stamped : ∀ id o, d.stored id = some o → o.Stamped) :
    ∀ id o, (d.visit v).1.stored id = some o → o.Stamped :=
  visit_holds (fun new => new.stamped) (fun effect stamped => (stamped.next effect.lasts effect.restamped).1) ready stamped

theorem run_stamped {earlier later : List Visit} (ready : d.Ready (earlier ++ later))
    (stamped : ∀ id o, d.stored id = some o → o.Stamped) : ∀ id o, (d.run earlier).stored id = some o → o.Stamped :=
  run_holds (fun new => new.stamped) (fun effect stamped => (stamped.next effect.lasts effect.restamped).1) ready stamped

theorem run_origin {earlier later : List Visit} (ready : d.Ready (earlier ++ later))
    (stamped : ∀ id o, d.stored id = some o → o.Stamped) (seen : (d.run earlier).stored id = some o) :
    (∃ before, d.stored id = some before ∧ before.Continues o) ∨
      ∃ first v rest creation, earlier = first ++ v :: rest ∧ d.Made first v creation id o := by
  induction earlier generalizing d with
  | nil => exact Or.inl ⟨o,seen,Order.Continues.refl o⟩
  | cons v earlier ih =>
    rcases ih (visit_leaves ready).ready (visit_stamped ready stamped) seen with
      ⟨middle,held,continues⟩ | ⟨first,w,rest,creation,split,made⟩
    · rcases visit_origin ready held with ⟨before,held,lasts,restamped⟩ | ⟨creation,made⟩
      · exact Or.inl ⟨before,held,((stamped id before held).next lasts restamped).2.trans continues⟩
      · exact Or.inr ⟨[],v,earlier,creation,rfl,made.creates,made.named,made.answer,made.stored,made.new,
          made.continues.trans continues⟩
    · exact Or.inr ⟨v :: first,w,rest,creation,by rw [split]; rfl,made.creates,made.named,made.answer,made.stored,made.new,
        made.continues⟩

-- An order is made once.
theorem run_continues {earlier later : List Visit} (ready : d.Ready (earlier ++ later))
    (stamped : ∀ id o, d.stored id = some o → o.Stamped) {before : Order} (held : d.stored id = some before)
    (seen : (d.run earlier).stored id = some o) : before.Continues o := by
  rcases run_origin ready stamped seen with ⟨stored,same,continues⟩ | ⟨first,v,rest,creation,split,made⟩
  · rw [held] at same
    cases same
    exact continues
  · subst split
    rw [List.append_assoc] at ready
    have spent := (run_ready ready).2.2 id (stored_spent ready held)
    have more : creations (v :: rest ++ later) = creations (rest ++ later) + 1 := List.countP_cons_of_pos made.creates
    exact absurd made.named.symm (spent 0 (by omega))

theorem run_ordered {earlier later : List Visit} (ready : d.Ready (earlier ++ later)) (forward : Forward (earlier ++ later))
    (stamped : ∀ id o, d.stored id = some o → o.Stamped) (ordered : ∀ id o, d.stored id = some o → o.Ordered (earlier ++ later)) :
    ∀ id o, (d.run earlier).stored id = some o → o.Ordered later := by
  induction earlier generalizing d with
  | nil => exact ordered
  | cons v earlier ih =>
    obtain ⟨next,forward⟩ := List.pairwise_cons.mp forward
    refine ih (visit_leaves ready).ready forward (visit_stamped ready stamped) ?_
    intro id o seen
    rcases visit_origin ready seen with ⟨before,held,lasts,restamped⟩ | ⟨creation,made⟩
    · exact (ordered id before held).next (stamped id before held) next lasts restamped
    · have same : creation.order = o := Option.some.inj (made.stored.symm.trans seen)
      exact same ▸ made.new.ordered next

end

-- What the stamps of a session's orders tell.
structure Chronicle (d : Desk) (visits : List Visit) : Prop where
  stamped : ∀ earlier later, visits = earlier ++ later → ∀ id o, (d.run earlier).stored id = some o → o.Stamped
  made : ∀ earlier later, visits = earlier ++ later → ∀ id o, (d.run earlier).stored id = some o →
    ∃ first v rest creation, earlier = first ++ v :: rest ∧ d.Made first v creation id o
  continues : ∀ earlier middle later, visits = earlier ++ (middle ++ later) → ∀ id before after,
    (d.run earlier).stored id = some before → (d.run (earlier ++ middle)).stored id = some after → before.Continues after
  ordered : Forward visits → ∀ earlier later, visits = earlier ++ later → ∀ id o, (d.run earlier).stored id = some o →
    o.stamps.Pairwise Timestamp.Precedes

theorem run_chronicle {d : Desk} {visits : List Visit} (opened : d.Opened visits) : d.Chronicle visits := by
  have ready := opened_ready opened
  refine ⟨?_,?_,?_,?_⟩
  · rintro earlier later rfl
    exact run_stamped ready (opened_holds opened)
  · rintro earlier later rfl id o seen
    rcases run_origin ready (opened_holds opened) seen with ⟨before,held,-⟩ | made
    · rw [opened_nothing opened id] at held
      cases held
    · exact made
  · rintro earlier middle later rfl id before after held seen
    rw [run_append] at seen
    exact run_continues (run_ready ready).1 (run_stamped ready (opened_holds opened)) held seen
  · rintro forward earlier later rfl id o seen
    exact (run_ordered ready forward (opened_holds opened) (opened_holds opened) id o seen).stamps

-- A sale that triggers and goes through.
def traded : List Visit := [
  ⟨.origin,.create (.str "take-profit") (.obj [("token",.str "ETH"),("triggerPrice",.int 5000)])⟩,
  ⟨.origin,.updateStatus "order_1" "triggered" none none⟩,
  ⟨.epoch,.updateStatus "order_1" "completed" none none⟩]

theorem traded_chronicle : (vacant .memory).Opened traded ∧ Forward traded ∧ (vacant .memory).Chronicle traded := by
  have opened : (vacant .memory).Opened traded := vacant_opened fun _ _ => trivial
  refine ⟨opened,?_,run_chronicle opened⟩
  have later : Timestamp.Precedes .origin .epoch := by
    refine ⟨?_,?_⟩ <;> decide +kernel
  simp [Forward,traded,later,Timestamp.Precedes.refl]

end Desk
end OrderDesk
