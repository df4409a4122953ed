import OrderDesk.Proofs.Desk.Reopening

-- Orders and their flows in a registry of our own. Every stored order has its flow there, which is stopped just
-- when the order is cancelled; no call for one order stops the flow of another, or starts it again.
namespace OrderDesk

namespace Registry
variable {r later : Registry} {before after o : Order} {flow : String}

-- A flow that is registered runs, whatever was done to an earlier one of its id.
theorem register_stopped (r : Registry) (f : Flow) (id : String) :
    (r.register f).isCancelled id = true ↔ r.isCancelled id = true ∧ id ≠ f.id := by
  simp [isCancelled,register]

theorem cancelBy_stopped (found : (r.find? flow).isSome = true) (id : String) :
    (r.cancelBy (.str flow)).1.isCancelled id = true ↔ r.isCancelled id = true ∨ id = flow := by
  rw [find?,List.isSome_find?] at found
  simp only [cancelBy,unlookable?,cancel,holds,found,if_true]
  by_cases stopped : r.isCancelled flow = true
  · rw [if_pos stopped]
    refine ⟨Or.inl,?_⟩
    rintro (before | rfl)
    · exact before
    · exact stopped
  · rw [if_neg stopped]
    simp [isCancelled]

-- The registry is in step with an order: it has its flow, stopped or not as the order is cancelled or not.
structure Follows (r : Registry) (o : Order) : Prop where
  flowId : o.flowId = .str (Flow.idOf o.id)
  held : ∃ f, r.find? (Flow.idOf o.id) = some f ∧ f.id = Flow.idOf o.id
  stopped : r.isCancelled (Flow.idOf o.id) = true ↔ o.status = .cancelled

namespace Follows

theorem found (follows : r.Follows o) : (r.find? (Flow.idOf o.id)).isSome = true := by
  obtain ⟨f,held,-⟩ := follows.held
  rw [held]
  rfl

-- What is written to the order matters to its flow only where it is cancelled.
theorem lasts (follows : r.Follows before) (lasts : before.Lasts after)
    (cancelled : after.status = .cancelled ↔ before.status = .cancelled) : r.Follows after := by
  obtain ⟨flowId,held,stopped⟩ := follows
  refine ⟨?_,?_,?_⟩
  · rw [lasts.flowId,lasts.id]
    exact flowId
  · rwa [lasts.id]
  · rw [lasts.id,cancelled]
    exact stopped

theorem register {f : Flow} (follows : r.Follows o) (apart : f.id ≠ Flow.idOf o.id) : (r.register f).Follows o := by
  refine ⟨follows.flowId,?_,?_⟩
  · rw [register_find,if_neg apart]
    exact follows.held
  · rw [register_stopped,follows.stopped]
    exact and_iff_left apart.symm

theorem cancelBy (follows : r.Follows o) (found : (r.find? flow).isSome = true) (apart : Flow.idOf o.id ≠ flow) :
    (r.cancelBy (.str flow)).1.Follows o := by
  refine ⟨follows.flowId,?_,?_⟩
  · rw [cancelBy_find]
    exact follows.held
  · rw [cancelBy_stopped found,follows.stopped]
    exact or_iff_left apart

theorem cancelled (follows : r.Follows before) (lasts : before.Lasts after) (cancelled : after.status = .cancelled) :
    (r.cancelBy (.str (Flow.idOf before.id))).1.Follows after := by
  refine ⟨?_,?_,?_⟩
  · rw [lasts.flowId,lasts.id]
    exact follows.flowId
  · rw [lasts.id,cancelBy_find]
    exact follows.held
  · rw [lasts.id,cancelBy_stopped follows.found]
    exact iff_of_true (Or.inr rfl) cancelled

end Follows
end Registry

-- Only a cancellation makes an order cancelled, and no order is taken back.
theorem Effect.cancelled {now : Timestamp} {call : Call} {response : Response} {before after : Order}
    (effect : Effect now call response (some before) (some after)) (lasting : ∀ id, call ≠ .cancel id) :
    after.status = .cancelled ↔ before.status = .cancelled := by
  constructor
  · intro cancelled
    cases effect with
    | kept idle => exact cancelled
    | moved asked allowed =>
      rw [Move.apply_status] at cancelled
      cases call with
      | cancel id => exact absurd rfl (lasting id)
      | activate id | resume id | pause id =>
        cases asked
        cases cancelled
      | updateStatus id status error branch =>
        simp only [Call.move?] at asked
        split at asked
        · split at asked
          · rename_i target known reported
            cases asked
            cases cancelled
            cases reported
          · cases asked
        · cases asked
      | _ => cases asked
    | flagged asked allowed => exact absurd asked (lasting _)
    | executed asked takes =>
      rw [takes.record] at cancelled
      split at cancelled
      · cases cancelled
      · exact cancelled
    | observed asked sees =>
      rw [sees.record] at cancelled
      split at cancelled
      · cases cancelled
      · exact cancelled
  · intro cancelled
    have ended := effect.ended (by rw [cancelled]; rfl)
    cases ended
    exact cancelled

namespace Desk

section
variable {d : Desk} {r : Registry} {v : Visit} {visits : List Visit} {id : String}

theorem stop_registry (running : d.runtime = .registry r) (owner flow : Json) :
    (d.stop owner flow).1.runtime = .registry (r.cancelBy flow).1 := by
  unfold stop
  rw [running]
  dsimp only
  split <;> rfl

theorem accept_registry (running : d.runtime = .registry r) (o : Order) (f : Flow) :
    (d.accept o f).1.runtime = .registry (r.register f) := by
  have registered : (d.registered o f).1.runtime = .registry (r.register f) := by
    unfold registered
    have given := (register_running running o.id f).2
    generalize d.register o.id f = answered at given ⊢
    obtain ⟨after,reply⟩ := answered
    cases reply <;> exact given
  rw [accept_entered]
  split
  · exact registered
  · exact (announceCreation_unasked _ _).runtime.trans registered

-- A creation comes to nothing before it reaches the registry, or the registry has its flow.
theorem create_registry (running : d.runtime = .registry r) (kind params : Json) :
    ((d.create kind params).1.runtime = .registry r ∧ ∀ creation, (d.create kind params).2 ≠ .ok creation) ∨
      ∃ f, f.id = Flow.idOf (.str d.nextId.1) ∧ (d.create kind params).1.runtime = .registry (r.register f) ∧
        ∀ creation, (d.create kind params).2 = .ok creation → creation.flow = f := by
  rcases create_cases d kind params with ⟨fault,made⟩ | ⟨fault,made⟩ | ⟨o,f,e,drafts,made⟩
  · rw [made]
    exact Or.inl ⟨running,by rintro creation ⟨⟩⟩
  · rw [made]
    exact Or.inl ⟨(nextId_unasked d).runtime.trans running,by rintro creation ⟨⟩⟩
  · rw [made]
    refine Or.inr ⟨f,drafts.id,accept_registry ((issued_unasked d e).runtime.trans running) o f,?_⟩
    intro creation answer
    rw [accept_entered] at answer
    split at answer
    · cases answer
    · cases answer
      rfl

theorem cancel_allowed {o : Order} (ready : d.Ready visits) (present : d.backend.Keeps d.clock) (running : d.runtime = .registry r)
    (held : d.stored id = some o) (follows : r.Follows o) (allowed : (Move.into .cancelled).allows o.status = true) :
    (d.cancel (.str id)).2 = .ok true ∧ (d.cancel (.str id)).1.runtime = .registry (r.cancelBy (.str (Flow.idOf o.id))).1 ∧
      (d.cancel (.str id)).1.stored id = some ((Move.into .cancelled).apply d.clock o) := by
  obtain ⟨sound,moments⟩ := ready.orders id o held
  obtain ⟨announcements,decided⟩ := Move.decide_allowed (.str id) d.clock allowed
  rw [← held] at decided
  obtain ⟨after,moved,changes⟩ := amend_store ready decided (Move.apply_sound sound (Or.inl rfl))
    (Move.apply_moments moments present)
  have unasked := amend_unasked d (.str id) ((Move.into .cancelled).decide (.str id) d.clock)
  rw [moved] at unasked
  have runs : after.runtime = .registry r := unasked.runtime.trans running
  have flow : ((Move.into .cancelled).apply d.clock o).flowId = .str (Flow.idOf o.id) := follows.flowId
  have truthy : (Json.str (Flow.idOf o.id)).truthy = true := by
    simp [Json.truthy,Flow.idOf,Draft.nodeId]
  obtain ⟨alike,accepted⟩ := stop_running runs follows.found ((Move.into .cancelled).apply d.clock o).id
  have done : d.cancel (.str id) =
      ((after.stop ((Move.into .cancelled).apply d.clock o).id (.str (Flow.idOf o.id))).1,.ok true) := by
    simp only [cancel,move,moved,runs,flow,truthy,if_true,stopFlow]
    generalize after.stop _ _ = stopped at accepted ⊢
    obtain ⟨last,reply⟩ := stopped
    cases accepted
    rfl
  rw [done]
  refine ⟨rfl,stop_registry runs _ _,?_⟩
  rw [alike.stored,changes.here]

-- A cancellation is refused, or the order and its flow are cancelled and nothing else is written.
theorem cancel_registry (ready : d.Ready visits) (present : d.backend.Keeps d.clock) (running : d.runtime = .registry r)
    (follows : ∀ o, d.stored id = some o → r.Follows o) :
    ((d.cancel (.str id)).2 = .ok false ∧ (d.cancel (.str id)).1.runtime = .registry r ∧
      (d.cancel (.str id)).1.stored id = d.stored id) ∨
    ∃ o, d.stored id = some o ∧ (d.cancel (.str id)).1.runtime = .registry (r.cancelBy (.str (Flow.idOf o.id))).1 ∧
      (d.cancel (.str id)).1.stored id = some ((Move.into .cancelled).apply d.clock o) := by
  by_cases allowed : ∃ o, d.stored id = some o ∧ (Move.into .cancelled).allows o.status = true
  · obtain ⟨o,held,allowed⟩ := allowed
    exact Or.inr ⟨o,held,(cancel_allowed ready present running held (follows o held) allowed).2⟩
  · obtain ⟨entries,decided⟩ := Move.decide_refused (.str id) d.clock fun o held moves => allowed ⟨o,held,moves⟩
    have refused : d.cancel (.str id) = (d.logAll entries,.ok false) := by rw [cancel,move,amend_keep ready decided]
    rw [refused]
    exact Or.inl ⟨rfl,(Noted.unasked ⟨entries,rfl⟩).runtime.trans running,(logAll_alike d entries).stored id⟩

end

-- What a visit leaves of a registry that follows the orders.
structure Attunes (d : Desk) (v : Visit) (r later : Registry) : Prop where
  running : (d.visit v).1.runtime = .registry later
  follows : ∀ id o, (d.visit v).1.stored id = some o → later.Follows o
  apart : ∀ id o, d.stored id = some o → v.call.subject? ≠ some id →
    later.isCancelled (Flow.idOf o.id) = r.isCancelled (Flow.idOf o.id)

section
variable {d : Desk} {r : Registry} {v : Visit} {visits : List Visit}

theorem create_attunes {kind params : Json} (ready : d.Ready (v :: visits)) (asked : v.call = .create kind params)
    (running : d.runtime = .registry r) (follows : ∀ id o, d.stored id = some o → r.Follows o) : ∃ later, d.Attunes v r later := by
  have creates : v.call.creates = true := by rw [asked]; rfl
  have more : creations (v :: visits) = creations visits + 1 := List.countP_cons_of_pos creates
  have first : (nextId {d with clock := v.now}).1 = d.idAt 0 := nextId_place _
  have visited := visit_create (d:=d) asked
  have unnamed (id : String) : v.call.subject? ≠ some id := by
    rw [asked]
    rintro ⟨⟩
  rcases create_registry (d:={d with clock := v.now}) running kind params with
    ⟨runs,unmade⟩ | ⟨f,named,runs,given⟩
  · refine ⟨r,by rwa [visited],?_,fun _ _ _ _ => rfl⟩
    intro id o seen
    rcases visit_at ready id with same | ⟨subject,-⟩ | ⟨-,-,-,creation,answer,-⟩
    · exact follows id o (same.symm.trans seen)
    · exact absurd subject (unnamed id)
    · rw [visited] at answer
      exact absurd (Response.created.inj answer) (unmade creation)
  · rw [first] at named
    -- The id is a new one, so the flow is of no order that was stored before.
    have apart {id : String} {o : Order} (held : d.stored id = some o) : Flow.idOf o.id ≠ f.id := by
      rw [(ready.orders id o held).1.id,named]
      intro same
      exact stored_spent ready held 0 (by omega) (Flow.idOf_injective same).symm
    refine ⟨r.register f,by rwa [visited],?_,?_⟩
    · intro id o seen
      rcases visit_at ready id with same | ⟨subject,-⟩ | ⟨-,own,-,creation,answer,here,new⟩
      · have held := same.symm.trans seen
        exact (follows id o held).register (apart held).symm
      · exact absurd subject (unnamed id)
      · cases here.symm.trans seen
        rw [visited] at answer
        have made := Response.created.inj answer
        have flow : f.id = Flow.idOf creation.order.id := by rw [named,new.id,own]
        refine ⟨(create_charted made).flowId,⟨f,by rw [Registry.register_find,if_pos flow],flow⟩,?_⟩
        · rw [Registry.register_stopped,flow]
          refine iff_of_false (fun stopped => stopped.2 rfl) ?_
          rcases new.status with status | status <;> simp [status]
    · intro id o held _
      rw [Bool.eq_iff_iff,Registry.register_stopped]
      exact and_iff_left (apart held)

theorem cancel_attunes {id : String} (ready : d.Ready (v :: visits)) (asked : v.call = .cancel id)
    (running : d.runtime = .registry r) (follows : ∀ id o, d.stored id = some o → r.Follows o) : ∃ later, d.Attunes v r later := by
  have visited : (d.visit v).1 = (cancel {d with clock := v.now} (.str id)).1 := by rw [visit,asked]; rfl
  have other {own : String} (differs : own ≠ id) : (d.visit v).1.stored own = d.stored own := by
    refine visit_other ready ?_ differs
    rw [asked]
    rfl
  rcases cancel_registry (ready.timed v.now) (ready.clocks v List.mem_cons_self) running (follows id) with
    ⟨-,runs,same⟩ | ⟨o,held,runs,here⟩
  · rw [← visited] at runs same
    refine ⟨r,runs,?_,fun _ _ _ _ => rfl⟩
    intro own o seen
    by_cases named : own = id
    · subst named
      exact follows own o (same.symm.trans seen)
    · exact follows own o ((other named).symm.trans seen)
  · rw [← visited] at runs here
    have found := (follows id o held).found
    have apart {own : String} {kept : Order} (stored : d.stored own = some kept) (differs : own ≠ id) :
        Flow.idOf kept.id ≠ Flow.idOf o.id := by
      rw [(ready.orders own kept stored).1.id,(ready.orders id o held).1.id]
      exact fun same => differs (Flow.idOf_injective same)
    refine ⟨_,runs,?_,?_⟩
    · intro own after seen
      by_cases named : own = id
      · subst named
        cases here.symm.trans seen
        exact (follows own o held).cancelled (Move.apply_lasts _ _ _) (Move.apply_status _ _ _)
      · have stored := (other named).symm.trans seen
        exact (follows own after stored).cancelBy found (apart stored named)
    · intro own kept stored unnamed
      have differs : own ≠ id := by
        rintro rfl
        rw [asked] at unnamed
        exact unnamed rfl
      rw [Bool.eq_iff_iff,Registry.cancelBy_stopped found]
      exact or_iff_left (apart stored differs)

-- Any order that the life of an order allows to be cancelled is cancelled.
theorem visit_cancels {id : String} {o : Order} (ready : d.Ready (v :: visits)) (asked : v.call = .cancel id)
    (running : d.runtime = .registry r) (held : d.stored id = some o) (follows : r.Follows o)
    (allowed : (Move.into .cancelled).allows o.status = true) : (d.visit v).2 = .done (.ok true) := by
  have done := (cancel_allowed (ready.timed v.now) (ready.clocks v List.mem_cons_self) running held follows allowed).1
  rw [visit,asked,perform]
  dsimp only
  rw [done]

theorem visit_attunes (ready : d.Ready (v :: visits)) (running : d.runtime = .registry r)
    (follows : ∀ id o, d.stored id = some o → r.Follows o) : ∃ later, d.Attunes v r later := by
  cases asked : v.call with
  | create kind params => exact create_attunes ready asked running follows
  | cancel id => exact cancel_attunes ready asked running follows
  | _ =>
    have kept : v.call.creates = false := by rw [asked]; rfl
    have lasting : ∀ id, v.call ≠ .cancel id := by
      rw [asked]
      rintro id ⟨⟩
    have unasked := (timed_unasked d v.now).trans (perform_unasked {d with clock := v.now} kept lasting)
    refine ⟨r,unasked.runtime.trans running,?_,fun _ _ _ _ => rfl⟩
    intro id o seen
    rcases visit_before ready seen with ⟨before,held,rfl | effect⟩ | ⟨creates,-⟩
    · exact follows id before held
    · exact (follows id before held).lasts effect.lasts (effect.cancelled lasting)
    · rw [kept] at creates
      cases creates

theorem run_attunes {earlier later : List Visit} (ready : d.Ready (earlier ++ later)) (running : d.runtime = .registry r)
    (follows : ∀ id o, d.stored id = some o → r.Follows o) :
    ∃ last, (d.run earlier).runtime = .registry last ∧ ∀ id o, (d.run earlier).stored id = some o → last.Follows o := by
  induction earlier generalizing d r with
  | nil => exact ⟨r,running,follows⟩
  | cons v earlier ih =>
    obtain ⟨next,attunes⟩ := visit_attunes ready running follows
    exact ih (visit_leaves ready).ready attunes.running attunes.follows

end

-- The registry and the orders of a session.
structure InStep (d : Desk) (visits : List Visit) : Prop where
  follows : ∀ earlier later, visits = earlier ++ later → ∃ r, (d.run earlier).runtime = .registry r ∧
    ∀ id o, (d.run earlier).stored id = some o → r.Follows o
  -- A cancellation that is done writes the status and the moment, and leaves the error as it was.
  clean : ∀ earlier v later, visits = earlier ++ v :: later → ∀ id, v.call = .cancel id →
    ((d.run earlier).visit v).2 = .done (.ok true) → ∃ before, (d.run earlier).stored id = some before ∧
      (d.run (earlier ++ [v])).stored id = some {before with status := .cancelled,updatedAt := v.now}
  -- The flow of an order is stopped or not as before, unless the call names the order.
  apart : ∀ earlier v later, visits = earlier ++ v :: later → ∀ r after, (d.run earlier).runtime = .registry r →
    (d.run (earlier ++ [v])).runtime = .registry after → ∀ id o, (d.run earlier).stored id = some o →
    v.call.subject? ≠ some id → ∀ flow, o.flowId = .str flow → after.isCancelled flow = r.isCancelled flow

theorem run_inStep {d : Desk} {r : Registry} {visits : List Visit} (opened : d.Opened visits) (running : d.runtime = .registry r) :
    d.InStep visits := by
  have attuned {earlier later : List Visit} (split : visits = earlier ++ later) := by
    have ready := opened_ready opened
    rw [split] at ready
    exact run_attunes ready running (opened_holds opened)
  refine ⟨fun earlier later split => attuned split,?_,?_⟩
  · intro earlier v later split id asked done
    obtain ⟨own,runs,follows⟩ := attuned split
    have ready := opened.ready_at split
    have visited : (d.run earlier).visit v = ((cancel {d.run earlier with clock := v.now} (.str id)).1,
        .done (cancel {d.run earlier with clock := v.now} (.str id)).2) := by rw [visit,asked]; rfl
    rw [run_snoc]
    rw [visited] at done ⊢
    rcases cancel_registry (ready.timed v.now) (ready.clocks v List.mem_cons_self) runs (follows id) with
      ⟨refused,-⟩ | ⟨o,held,-,here⟩
    · rw [refused] at done
      cases done
    · exact ⟨o,held,here⟩
  · intro earlier v later split r after before runs id o held unnamed flow owned
    obtain ⟨own,start,follows⟩ := attuned split
    obtain ⟨last,attunes⟩ := visit_attunes (opened.ready_at split) start follows
    rw [run_snoc,attunes.running] at runs
    cases runs
    cases start.symm.trans before
    cases (follows id o held).flowId.symm.trans owned
    exact attunes.apart id o held unnamed

def halted : List Visit := [placed.visit,⟨.epoch,.cancel "order_1"⟩]

theorem halted_inStep : registering.Opened halted ∧ registering.runtime = .registry .empty ∧ registering.InStep halted ∧
    ∃ r o, (registering.run halted).runtime = .registry r ∧ (registering.run halted).stored "order_1" = some o ∧
      o.status = .cancelled ∧ r.isCancelled "order_1:flow" = true := by
  have empty : (vacant .memory).Opened halted := vacant_opened fun _ _ => trivial
  have opened : registering.Opened halted := ⟨empty.empty,empty.working,empty.clocks,empty.distinct⟩
  have inStep : registering.InStep halted := run_inStep opened rfl
  refine ⟨opened,rfl,inStep,?_⟩
  obtain ⟨plan,drawn⟩ := stopLoss_drawn
  obtain ⟨creation,makes⟩ := visit_drawn (v:=placed.visit) (opened_ready opened) rfl rfl drawn
  obtain ⟨r,running,follows⟩ := inStep.follows [placed.visit] [⟨.epoch,.cancel "order_1"⟩] rfl
  have held : (registering.run [placed.visit]).stored "order_1" = some creation.order := makes.here
  have active : creation.order.status = .active := (makes.stores.taken rfl).2
  have allowed : (Move.into .cancelled).allows creation.order.status = true := by rw [active]; rfl
  have done := visit_cancels (opened.ready_at rfl) (v:=⟨.epoch,.cancel "order_1"⟩) rfl running held (follows _ _ held) allowed
  obtain ⟨before,-,here⟩ := inStep.clean [placed.visit] ⟨.epoch,.cancel "order_1"⟩ [] rfl "order_1" rfl done
  obtain ⟨last,runs,followed⟩ := inStep.follows halted [] rfl
  have ready : (registering.run halted).Ready [] := opened.ready_at (List.append_nil halted).symm
  have own := (ready.orders "order_1" _ here).1.id
  have stopped := (followed "order_1" _ here).stopped.mpr rfl
  rw [own] at stopped
  exact ⟨last,_,runs,here,rfl,stopped⟩

end Desk
end OrderDesk
