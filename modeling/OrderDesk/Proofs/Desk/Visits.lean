import OrderDesk.Proofs.Desk.Amendment
import OrderDesk.Proofs.Desk.Decision

-- Every visit in one theorem: the desk stays ready for the visits that remain, and the store changes as the
-- call and its answer say.
namespace OrderDesk

-- What a call does to the order it names.
inductive Effect (now : Timestamp) (call : Call) : Response → Option Order → Option Order → Prop where
  | kept {response : Response} {found : Option Order} (idle : response.succeeded = false) :
      Effect now call response found found
  | moved {m : Move} {o : Order} (asked : call.move? = some m) (allowed : m.allows o.status = true) :
      Effect now call (.done (.ok true)) (some o) (some (m.apply now o))
  | flagged {id message : String} {o : Order} (asked : call = .cancel id)
      (allowed : (Move.into .cancelled).allows o.status = true) :
      Effect now call (.done (.ok true)) (some o)
        (some {(Move.into .cancelled).apply now o with error := .str message,updatedAt := now})
  -- The runtime that is asked to stop a flow may take the order away.
  | forgotten {id : String} {o : Order} (asked : call = .cancel id)
      (allowed : (Move.into .cancelled).allows o.status = true) : Effect now call (.done (.ok true)) (some o) none
  | executed {id : String} {o after : Order} {before later : Schedule} {last : Bool} (asked : call = .recordExecution id)
      (takes : Execution.Takes now o after before later last) :
      Effect now call (.done (.ok true)) (some o) (some after)
  | observed {id : String} {snapshot merged : Snapshot} {o after : Order} {trailing : Option Trailing} {ended : Bool}
      (asked : call = .prepare id snapshot) (sees : Tick.Sees snapshot now o after merged trailing ended) :
      Effect now call (.prepared (.ok (some merged))) (some o) (some after)

namespace Effect

-- What an order is like does not suffer from any call.
theorem sound {now : Timestamp} {call : Call} {response : Response} {id : String} {before found : Option Order} {b : Backend}
    (effect : Effect now call response before found) (present : b.Keeps now)
    (held : ∀ o, before = some o → o.Sound id ∧ o.Moments b.Keeps) :
    ∀ o, found = some o → o.Sound id ∧ o.Moments b.Keeps := by
  intro after same
  cases effect with
  | kept idle => exact held after same
  | moved asked allowed =>
    rename_i m o
    obtain ⟨sound,moments⟩ := held o rfl
    cases same
    have text : m.error = .null ∨ ∃ s, m.error = .str s := by
      cases call with
      | activate | resume | pause | cancel => cases asked; exact Or.inl rfl
      | updateStatus id status error branch =>
        simp only [Call.move?] at asked
        split at asked
        · split at asked
          · cases asked
            cases error with
            | none => exact Or.inl rfl
            | some s => exact Or.inr ⟨s,rfl⟩
          · cases asked
        · cases asked
      | _ => cases asked
    exact ⟨Move.apply_sound sound text,Move.apply_moments moments present⟩
  | flagged asked allowed =>
    rename_i message o
    obtain ⟨sound,moments⟩ := held o rfl
    cases same
    have cancelled : ((Move.into .cancelled).apply now o).Sound id := Move.apply_sound sound (Or.inl rfl)
    have kept : ((Move.into .cancelled).apply now o).Moments b.Keeps := Move.apply_moments moments present
    exact ⟨cancelled.flagged message _,kept.flagged (.str message) present⟩
  | forgotten asked allowed => cases same
  | executed asked takes =>
    obtain ⟨sound,moments⟩ := held _ rfl
    cases same
    exact ⟨takes.sound sound,takes.moments moments present⟩
  | observed asked sees =>
    obtain ⟨sound,moments⟩ := held _ rfl
    cases same
    exact ⟨sees.sound sound,sees.moments moments present⟩

theorem absent {now : Timestamp} {call : Call} {response : Response} {found : Option Order}
    (effect : Effect now call response none found) : found = none := by
  cases effect
  rfl

theorem absent_idle {now : Timestamp} {call : Call} {response : Response} {found : Option Order}
    (effect : Effect now call response none found) : response.succeeded = false := by
  cases effect
  assumption

theorem lasts {now : Timestamp} {call : Call} {response : Response} {before after : Order}
    (effect : Effect now call response (some before) (some after)) : before.Lasts after := by
  cases effect with
  | kept idle => exact Order.Lasts.refl _
  | moved asked allowed => exact Move.apply_lasts _ _ _
  | flagged asked allowed =>
    have moved := Move.apply_lasts (.into .cancelled) now before
    exact ⟨moved.id,moved.params,moved.flowId,moved.createdAt,moved.trailing,moved.schedule⟩
  | executed asked takes => exact takes.lasts
  | observed asked sees => exact sees.lasts

end Effect

namespace Desk

-- What a visit does to the store.
inductive Step (d : Desk) (v : Visit) (after : Desk) (response : Response) : Prop where
  | aside (unnamed : v.call.subject? = none) (idle : response.succeeded = false)
      (same : ∀ id, after.stored id = d.stored id) : Step d v after response
  | named {id : String} (subject : v.call.subject? = some id)
      (effect : Effect v.now v.call response (d.stored id) (after.stored id))
      (elsewhere : ∀ other, other ≠ id → after.stored other = d.stored other) : Step d v after response
  | created {id : String} {creation : Creation} (creates : v.call.creates = true) (first : id = d.idAt 0)
      (answer : response = .created (.ok creation)) (new : creation.order.New id v.now) (fresh : d.stored id = none)
      (here : after.stored id = some creation.order)
      (elsewhere : ∀ other, other ≠ id → after.stored other = d.stored other) : Step d v after response

section
variable {d : Desk} {visits : List Visit} {id : String} {call : Call}

theorem Alike.unchanged {after : Desk} (alike : d.Alike after) (ready : d.Ready visits) (id : String) :
    d.Changes after id (d.stored id) := by
  refine ⟨alike.settings,alike.clock,alike.ids,alike.made,?_,?_⟩
  · rw [alike.storage]
  · rw [alike.storage]
    exact ⟨ready.store,rfl,rfl,fun _ _ => rfl⟩

theorem move_effect {m : Move} (id : String) (ready : d.Ready visits) (present : d.backend.Keeps d.clock)
    (text : m.error = .null ∨ ∃ s, m.error = .str s) :
    (∃ after, d.move (.str id) m = (after,.ok none) ∧ d.Changes after id (d.stored id)) ∨
      ∃ after o, d.stored id = some o ∧ m.allows o.status = true ∧
        d.move (.str id) m = (after,.ok (some (m.apply d.clock o))) ∧ d.Changes after id (some (m.apply d.clock o)) := by
  by_cases allowed : ∃ o, d.stored id = some o ∧ m.allows o.status = true
  · obtain ⟨o,held,allowed⟩ := allowed
    obtain ⟨sound,moments⟩ := ready.orders id o held
    obtain ⟨announcements,decided⟩ := Move.decide_allowed (.str id) d.clock allowed
    rw [← held] at decided
    obtain ⟨after,written,changes⟩ := amend_store ready decided (Move.apply_sound sound text)
      (Move.apply_moments moments present)
    exact Or.inr ⟨after,o,held,allowed,written,changes⟩
  · have refused : ∀ o, d.stored id = some o → ¬ m.allows o.status = true := fun o held moves => allowed ⟨o,held,moves⟩
    obtain ⟨entries,decided⟩ := Move.decide_refused (.str id) d.clock refused
    exact Or.inl ⟨_,amend_keep ready decided,(logAll_alike d entries).unchanged ready id⟩

theorem moves_effect {m : Move} (call : Call) (id : String) (ready : d.Ready visits) (present : d.backend.Keeps d.clock)
    (text : m.error = .null ∨ ∃ s, m.error = .str s) (asked : call.move? = some m) :
    ∃ after answer found, d.moves (.str id) m = (after,answer) ∧ d.Changes after id found ∧
      Effect d.clock call (.done answer) (d.stored id) found := by
  rcases move_effect id ready present text with ⟨after,moved,changes⟩ | ⟨after,o,held,allowed,moved,changes⟩
  · exact ⟨after,.ok false,_,by rw [moves,moved]; rfl,changes,.kept rfl⟩
  · refine ⟨after,.ok true,_,by rw [moves,moved]; rfl,changes,?_⟩
    rw [held]
    exact .moved asked allowed

theorem flagError_changes (id : String) (ready : d.Ready visits) (present : d.backend.Keeps d.clock) (message : String) :
    ∃ after, d.flagError (.str id) message = (after,.ok ()) ∧
      d.Changes after id ((d.stored id).map fun o => {o with error := .str message,updatedAt := d.clock}) := by
  cases held : d.stored id with
  | none =>
    have kept : d.flagError (.str id) message = (d.logAll [],.ok ()) := amend_keep ready (by rw [held])
    have same := (logAll_alike d []).unchanged ready id
    rw [held] at same
    exact ⟨_,kept,same⟩
  | some o =>
    obtain ⟨sound,moments⟩ := ready.orders id o held
    exact amend_store ready (by rw [held]) (sound.flagged message d.clock) (moments.flagged (.str message) present)

-- The answer to a request may take the order away, nothing else.
theorem answered_changes (id : String) (ready : d.Ready visits) (reply : Reply) :
    ∃ found, d.Changes (d.answered (.str id) reply) id found ∧ (found = d.stored id ∨ found = none) := by
  have unchanged := (Alike.refl d).unchanged ready id
  unfold answered
  split
  · obtain ⟨storage,found,deleted,broken,becomes⟩ := storage_delete ready id
    rw [deleted]
    exact ⟨none,⟨rfl,rfl,rfl,rfl,broken,becomes⟩,Or.inr rfl⟩
  · exact ⟨_,unchanged,Or.inl rfl⟩

theorem stop_changes (id : String) (flow : Json) (ready : d.Ready visits) :
    ∃ after reply found, d.stop (.str id) flow = (after,reply) ∧ d.Changes after id found ∧
      (found = d.stored id ∨ found = none) := by
  have unchanged {after : Desk} (alike : d.Alike after) := alike.unchanged ready id
  unfold stop
  split
  · exact ⟨_,_,_,rfl,unchanged (Alike.refl d),Or.inl rfl⟩
  · rename_i r running
    simp only
    split
    · exact ⟨_,_,_,rfl,unchanged ⟨rfl,rfl,rfl,rfl,rfl⟩,Or.inl rfl⟩
    · exact ⟨_,_,_,rfl,unchanged ⟨rfl,rfl,rfl,rfl,rfl⟩,Or.inl rfl⟩
  · rename_i r running
    have asked : d.Alike {d with requests := d.requests + 1,journal := d.journal ++ [.asked true flow]} :=
      ⟨rfl,rfl,rfl,rfl,rfl⟩
    obtain ⟨found,changes,outcome⟩ := answered_changes id (asked.ready ready) (r.cancelling d.requests)
    exact ⟨_,_,found,rfl,asked.changes changes,outcome⟩

theorem register_changes (id : String) (f : Flow) (ready : d.Ready visits) :
    ∃ after reply found, d.register (.str id) f = (after,reply) ∧ d.Changes after id found ∧
      (found = d.stored id ∨ found = none) := by
  have unchanged {after : Desk} (alike : d.Alike after) := alike.unchanged ready id
  unfold register
  split
  · exact ⟨_,_,_,rfl,unchanged (Alike.refl d),Or.inl rfl⟩
  · exact ⟨_,_,_,rfl,unchanged ⟨rfl,rfl,rfl,rfl,rfl⟩,Or.inl rfl⟩
  · rename_i r running
    have asked : d.Alike {d with requests := d.requests + 1,journal := d.journal ++ [.asked false (.str f.id)]} :=
      ⟨rfl,rfl,rfl,rfl,rfl⟩
    obtain ⟨found,changes,outcome⟩ := answered_changes id (asked.ready ready) (r.registering d.requests)
    exact ⟨_,_,found,rfl,asked.changes changes,outcome⟩

-- A record that stays as it is, or goes.
theorem Changes.shrunk {after : Desk} {found : Option Order} (changes : d.Changes after id found) (ready : d.Ready visits)
    (outcome : found = d.stored id ∨ found = none) : after.Ready visits := by
  refine changes.ready ready ?_ ?_
  · intro o held
    rcases outcome with same | gone
    · exact ready.orders id o (same ▸ held)
    · rw [gone] at held
      cases held
  · intro k bound named
    rcases outcome with same | gone
    · rw [same,← named]
      exact ready.fresh k bound
    · exact gone

theorem Changes.backend {after : Desk} {found : Option Order} (changes : d.Changes after id found) :
    after.backend = d.backend := changes.store.backend

theorem stopFlow_changes {o : Order} (named : o.id = .str id) (ready : d.Ready visits) (present : d.backend.Keeps d.clock) :
    ∃ after found, d.stopFlow (.str id) o = (after,.ok true) ∧ d.Changes after id found ∧
      (found = d.stored id ∨ found = none ∨
        ∃ message, found = (d.stored id).map fun o => {o with error := .str message,updatedAt := d.clock}) := by
  obtain ⟨stopped,reply,found,answer,changes,outcome⟩ := stop_changes id o.flowId ready
  have readyAfter := changes.shrunk ready outcome
  have flags (e : Entry) (message : String) : ∃ after found, (stopped.log e).flagError (.str id) message = (after,.ok ()) ∧
      d.Changes after id found ∧ (found = d.stored id ∨ found = none ∨
        ∃ message, found = (d.stored id).map fun o => {o with error := .str message,updatedAt := d.clock}) := by
    have logged := log_alike stopped e
    have kept : (stopped.log e).backend.Keeps (stopped.log e).clock := by
      rw [show (stopped.log e).backend = d.backend from changes.backend,logged.clock,changes.clock]
      exact present
    obtain ⟨after,written,flagged⟩ := flagError_changes id (logged.ready readyAfter) kept message
    have clock : (stopped.log e).clock = d.clock := changes.clock
    rw [logged.stored,changes.here,clock] at flagged
    refine ⟨after,_,written,changes.again (logged.changes flagged),?_⟩
    rcases outcome with same | gone
    · exact Or.inr (Or.inr ⟨message,by rw [same]⟩)
    · exact Or.inr (Or.inl (by rw [gone]; rfl))
  unfold stopFlow
  simp only [named,answer]
  split
  · refine ⟨stopped,found,rfl,changes,?_⟩
    rcases outcome with same | gone
    · exact Or.inl same
    · exact Or.inr (Or.inl gone)
  · obtain ⟨after,found,written,changes,outcome⟩ := flags _ _
    exact ⟨after,found,by rw [written]; rfl,changes,outcome⟩
  · obtain ⟨after,found,written,changes,outcome⟩ := flags _ _
    exact ⟨after,found,by rw [written]; rfl,changes,outcome⟩

-- A cancelled order is as good as any for what the runtime says of it.
theorem cancelled_ready {after : Desk} {o : Order} (ready : d.Ready visits) (present : d.backend.Keeps d.clock)
    (held : d.stored id = some o) (changes : d.Changes after id (some ((Move.into .cancelled).apply d.clock o))) :
    ((Move.into .cancelled).apply d.clock o).Sound id ∧ after.Ready visits ∧ after.backend.Keeps after.clock := by
  obtain ⟨sound,moments⟩ := ready.orders id o held
  have soundAfter : ((Move.into .cancelled).apply d.clock o).Sound id := Move.apply_sound sound (Or.inl rfl)
  refine ⟨soundAfter,?_,?_⟩
  · refine changes.ready ready ?_ ?_
    · intro o same
      cases same
      exact ⟨soundAfter,Move.apply_moments moments present⟩
    · intro k bound named
      rw [← named,ready.fresh k bound] at held
      cases held
  · rw [changes.backend,changes.clock]
    exact present

theorem cancel_effect (id : String) (ready : d.Ready visits) (present : d.backend.Keeps d.clock) :
    ∃ after answer found, d.cancel (.str id) = (after,answer) ∧ d.Changes after id found ∧
      Effect d.clock (.cancel id) (.done answer) (d.stored id) found := by
  rcases move_effect (m:=.into .cancelled) id ready present (Or.inl rfl) with
    ⟨after,moved,changes⟩ | ⟨after,o,held,allowed,moved,changes⟩
  · exact ⟨after,.ok false,_,by rw [cancel,moved],changes,.kept rfl⟩
  · obtain ⟨soundAfter,readyAfter,keptAfter⟩ := cancelled_ready ready present held changes
    have silent : Effect d.clock (.cancel id) (.done (.ok true)) (d.stored id) (some ((Move.into .cancelled).apply d.clock o)) :=
      held ▸ .moved rfl allowed
    obtain ⟨stopped,found,answer,stopChanges,outcome⟩ := stopFlow_changes soundAfter.id readyAfter keptAfter
    unfold cancel
    rw [moved]
    simp only
    split
    · exact ⟨after,_,_,rfl,changes,silent⟩
    · split
      · refine ⟨stopped,_,found,answer,changes.again stopChanges,?_⟩
        rw [changes.here,changes.clock] at outcome
        rcases outcome with same | gone | ⟨message,flagged⟩
        · rw [same]
          exact silent
        · rw [gone,held]
          exact .forgotten rfl allowed
        · rw [flagged,held]
          exact .flagged rfl allowed
      · exact ⟨after,_,_,rfl,changes,silent⟩

theorem recordExecution_effect (id : String) (ready : d.Ready visits) (present : d.backend.Keeps d.clock) :
    ∃ after answer found, d.recordExecution (.str id) = (after,answer) ∧ d.Changes after id found ∧
      Effect d.clock (.recordExecution id) (.done answer) (d.stored id) found := by
  rcases Execution.decide_cases (.str id) d.clock (d.stored id) with
    ⟨fault,decided⟩ | ⟨entries,decided⟩ | ⟨o,after,before,later,last,announcements,held,takes,decided⟩
  · exact ⟨d,_,_,amend_fail ready decided,(Alike.refl d).unchanged ready id,.kept rfl⟩
  · exact ⟨_,_,_,amend_keep ready decided,(logAll_alike d entries).unchanged ready id,.kept rfl⟩
  · obtain ⟨sound,moments⟩ := ready.orders id o held
    obtain ⟨stored,written,changes⟩ := amend_store ready decided (takes.sound sound) (takes.moments moments present)
    exact ⟨stored,_,_,written,changes,held ▸ .executed rfl takes⟩

theorem prepare_effect (id : String) (snapshot : Snapshot) (ready : d.Ready visits) (present : d.backend.Keeps d.clock) :
    ∃ after answer found, d.prepare (.str id) snapshot = (after,answer) ∧ d.Changes after id found ∧
      Effect d.clock (.prepare id snapshot) (.prepared answer) (d.stored id) found := by
  rcases Tick.decide_cases (.str id) snapshot d.clock (d.stored id) with
    ⟨fault,decided⟩ | ⟨answer,entries,decided⟩ | ⟨o,after,merged,trailing,ended,announcements,held,sees,decided⟩
  · exact ⟨d,_,_,amend_fail ready decided,(Alike.refl d).unchanged ready id,.kept rfl⟩
  · exact ⟨_,_,_,amend_keep ready decided,(logAll_alike d entries).unchanged ready id,.kept rfl⟩
  · obtain ⟨sound,moments⟩ := ready.orders id o held
    obtain ⟨stored,written,changes⟩ := amend_store ready decided (sees.sound sound) (sees.moments moments present)
    exact ⟨stored,_,_,written,changes,held ▸ .observed rfl sees⟩

-- New orders.

theorem nextId_place (d : Desk) : d.nextId.1 = d.idAt 0 := by
  unfold nextId
  split
  · rename_i id ids given
    simp [idAt,given]
  · rename_i given
    simp [idAt,given]

theorem nextId_later (d : Desk) (k : Nat) : d.nextId.2.idAt k = d.idAt (k + 1) := by
  unfold nextId
  split
  · rename_i id ids given
    simp only [idAt,given,List.getElem?_cons_succ,List.length_cons,Nat.add_sub_add_right]
  · rename_i given
    simp only [idAt,given,List.getElem?_nil,List.length_nil,Nat.sub_zero]
    rw [Nat.add_right_comm d.made 1 k,Nat.add_assoc d.made k 1]

theorem nextId_same (d : Desk) : d.nextId.2.storage = d.storage ∧ d.nextId.2.clock = d.clock := by
  unfold nextId
  split <;> exact ⟨rfl,rfl⟩

-- Ids that no new order will get.
def Spent (d : Desk) (visits : List Visit) (id : String) : Prop := ∀ k, k < creations visits → d.idAt k ≠ id

theorem stored_spent {o : Order} (ready : d.Ready visits) (held : d.stored id = some o) : d.Spent visits id := by
  intro k bound same
  have free := ready.fresh k bound
  rw [same,held] at free
  cases free

theorem nextId_ready {v : Visit} (ready : d.Ready (v :: visits)) (creates : v.call.creates = true) :
    d.nextId.2.Ready visits := by
  obtain ⟨working,store,clocks,orders,fresh,distinct⟩ := ready
  have more : creations (v :: visits) = creations visits + 1 := List.countP_cons_of_pos creates
  have storage := (nextId_same d).1
  refine ⟨?_,?_,?_,?_,?_,?_⟩
  · rwa [storage]
  · rwa [storage]
  · rw [backend,storage]
    exact fun visit member => clocks visit (List.mem_cons_of_mem v member)
  · simpa only [backend,Desk.stored,storage] using orders
  · intro k bound
    rw [nextId_later,Desk.stored,storage]
    exact fresh (k + 1) (by omega)
  · intro j k boundJ boundK same
    rw [nextId_later,nextId_later] at same
    have equal := distinct (j + 1) (k + 1) (by omega) (by omega) same
    omega

theorem fresh_new {p : Params} (settled : p.Settled) (now : Timestamp) (id flow : String) :
    Order.New id now {Order.fresh id p now with flowId := .str flow} :=
  ⟨rfl,⟨flow,rfl⟩,Or.inl rfl,settled,Or.inl rfl,rfl,rfl,rfl,rfl,rfl,rfl⟩

theorem registered_new {o : Order} (f : Flow) (ready : d.Ready visits) (free : d.stored id = none)
    (new : o.New id d.clock) : ∃ after kept running, d.registered o f = (after,kept,running) ∧
      d.Changes after id none ∧ kept.New id d.clock := by
  obtain ⟨after,reply,found,answer,changes,outcome⟩ := register_changes id f ready
  have gone : found = none := by
    rcases outcome with same | gone
    · rw [same,free]
    · exact gone
  subst gone
  unfold registered
  simp only [new.id,answer]
  split
  · rename_i message forgets
    refine ⟨_,_,_,rfl,changes.alike (log_alike after _),?_⟩
    exact ⟨rfl,new.flow,Or.inr ⟨_,rfl⟩,new.params,new.status,new.createdAt,changes.clock,new.triggeredAt,new.completedAt,
      new.trailing,new.schedule⟩
  · exact ⟨_,_,_,rfl,changes,new⟩

theorem announceCreation_alike (d : Desk) (o : Order) : d.Alike (d.announceCreation o) := by
  have told (e : Entry) (event : Event) : d.Alike ((d.log e).tell o event) := (log_alike d e).trans (tell_alike _ o event)
  unfold announceCreation
  simp only
  split
  · exact (told _ _).trans (tell_alike _ o _)
  · exact told _ _

theorem accept_new {o : Order} (f : Flow) (ready : d.Ready visits) (free : d.stored id = none) (spent : d.Spent visits id)
    (new : o.New id d.clock) (present : d.backend.Keeps d.clock) :
    ∃ after kept, d.accept o f = (after,.ok ⟨kept,f⟩) ∧ kept.New id d.clock ∧ d.Changes after id (some kept) ∧
      after.Ready visits := by
  obtain ⟨after,kept,running,registered,changes,keptNew⟩ := registered_new f ready free new
  have readyAfter := changes.shrunk ready (Or.inr rfl)
  have active : ∀ o : Order, o.New id d.clock →
      Order.New id d.clock (if (running && after.settings.autoActivate) = true then {o with status := .active} else o) := by
    intro o new
    split
    · exact ⟨new.id,new.flow,new.error,new.params,Or.inr rfl,new.createdAt,new.updatedAt,new.triggeredAt,new.completedAt,
        new.trailing,new.schedule⟩
    · exact new
  have finalNew := active kept keptNew
  unfold accept
  rw [registered]
  simp only
  generalize (if (running && after.settings.autoActivate) = true then {kept with status := .active} else kept) = final
    at finalNew
  have moments : final.Moments after.backend.Keeps := by
    rw [changes.backend]
    exact finalNew.moments present
  obtain ⟨storage,written,broken,becomes⟩ := storage_set readyAfter finalNew.sound moments
  rw [written]
  have stored : after.Changes {after with storage} id (some final) := ⟨rfl,rfl,rfl,rfl,broken,becomes⟩
  have all := changes.again (stored.alike (announceCreation_alike {after with storage} final))
  refine ⟨_,final,rfl,finalNew,all,?_⟩
  refine all.ready ready ?_ ?_
  · intro o same
    cases same
    exact ⟨finalNew.sound,finalNew.moments present⟩
  · intro k bound same
    exact absurd same (spent k bound)

-- The visits that remain ask for no more new orders.
theorem Ready.rest {v : Visit} (ready : d.Ready (v :: visits)) : d.Ready visits := by
  have fewer : creations visits ≤ creations (v :: visits) := List.Sublist.countP_le (List.sublist_cons_self v visits)
  exact ⟨ready.working,ready.store,fun visit member => ready.clocks visit (List.mem_cons_of_mem v member),ready.orders,
    fun k bound => ready.fresh k (by omega),fun j k boundJ boundK => ready.distinct j k (by omega) (by omega)⟩

theorem Spent.rest {v : Visit} (spent : d.Spent (v :: visits) id) : d.Spent visits id := by
  have fewer : creations visits ≤ creations (v :: visits) := List.Sublist.countP_le (List.sublist_cons_self v visits)
  exact fun k bound => spent k (by omega)

-- What a visit leaves for the visits that remain.
structure Leaves (d : Desk) (v : Visit) (visits : List Visit) (after : Desk) (response : Response) : Prop where
  ready : after.Ready visits
  backend : after.backend = d.backend
  spent : ∀ id, d.Spent (v :: visits) id → after.Spent visits id
  step : d.Step v after response

theorem create_leaves {kind params : Json} {v : Visit} (asked : v.call = .create kind params) (clock : d.clock = v.now)
    (ready : d.Ready (v :: visits)) :
    ∃ after answer, d.create kind params = (after,answer) ∧ d.Leaves v visits after (.created answer) := by
  have creates : v.call.creates = true := by rw [asked]; rfl
  have unnamed : v.call.subject? = none := by rw [asked]; rfl
  have more : creations (v :: visits) = creations visits + 1 := List.countP_cons_of_pos creates
  unfold create
  cases parsed : Params.parse kind params with
  | error fault => exact ⟨d,_,rfl,ready.rest,rfl,fun _ spent => spent.rest,.aside unnamed rfl fun _ => rfl⟩
  | ok p =>
    have new := fresh_new (Params.parse_settled parsed) d.clock d.nextId.1
    have readyNext := nextId_ready ready creates
    have places := nextId_later d
    have first := nextId_place d
    obtain ⟨storage,time⟩ := nextId_same d
    generalize d.nextId = issued at new readyNext places first storage time ⊢
    obtain ⟨id,next⟩ := issued
    simp only at new readyNext places first storage time ⊢
    have spends {after : Desk} (ids : ∀ k, after.idAt k = next.idAt k) (id : String)
        (spent : d.Spent (v :: visits) id) : after.Spent visits id := by
      intro k bound
      rw [ids,places]
      exact spent (k + 1) (by omega)
    have same (id : String) : next.stored id = d.stored id := by rw [Desk.stored,Desk.stored,storage]
    have backend : next.backend = d.backend := by rw [Desk.backend,Desk.backend,storage]
    have free : d.stored id = none := by
      rw [first]
      exact ready.fresh 0 (by omega)
    have own : next.Spent visits id := by
      intro k bound equal
      rw [places,first] at equal
      have := ready.distinct (k + 1) 0 (by omega) (by omega) equal
      omega
    rw [time]
    cases made : (Order.fresh id p d.clock).flow next.settings.flow d.clock with
    | error fault => exact ⟨next,_,rfl,readyNext,backend,spends fun _ => rfl,.aside unnamed rfl same⟩
    | ok f =>
      have logged := log_alike next (flowEntry (Order.fresh id p d.clock) f)
      simp only
      generalize next.log (flowEntry (Order.fresh id p d.clock) f) = ledger at logged
      have backendLogged : ledger.backend = d.backend := by rw [Desk.backend,logged.storage,← Desk.backend,backend]
      have clockLogged : ledger.clock = d.clock := logged.clock.trans time
      have ids (k : Nat) : ledger.idAt k = next.idAt k := by rw [idAt,idAt,logged.ids,logged.made]
      have spentLogged : ledger.Spent visits id := by
        intro k bound
        rw [ids]
        exact own k bound
      have present : ledger.backend.Keeps ledger.clock := by
        rw [backendLogged,clockLogged,clock]
        exact ready.clocks v List.mem_cons_self
      have newLogged := new f.id
      rw [← clockLogged] at newLogged
      obtain ⟨after,kept,accepted,keptNew,changes,readyAfter⟩ := accept_new f (logged.ready readyNext)
        (by rw [logged.stored,same,free]) spentLogged newLogged present
      rw [clockLogged] at accepted keptNew
      refine ⟨after,_,accepted,readyAfter,changes.backend.trans backendLogged,spends ?_,?_⟩
      · intro k
        rw [idAt,changes.ids,changes.made,← ids,idAt]
      · refine .created creates first rfl (clock ▸ keptNew) free changes.here ?_
        intro other differs
        rw [changes.elsewhere differs,logged.stored,same]

theorem named_leaves {v : Visit} {after : Desk} {response : Response} {found : Option Order}
    (named : v.call.subject? = some id) (clock : d.clock = v.now) (ready : d.Ready (v :: visits))
    (changes : d.Changes after id found) (effect : Effect d.clock v.call response (d.stored id) found) :
    d.Leaves v visits after response := by
  have present : d.backend.Keeps d.clock := by
    rw [clock]
    exact ready.clocks v List.mem_cons_self
  refine ⟨?_,changes.backend,?_,?_⟩
  · refine changes.ready ready.rest (effect.sound present fun o held => ready.orders id o held) ?_
    intro k bound same
    have free := ready.rest.fresh k bound
    rw [same] at free
    rw [free] at effect
    exact effect.absent
  · intro other spent k bound
    rw [idAt,changes.ids,changes.made]
    exact spent.rest k bound
  · refine .named named ?_ fun other differs => changes.elsewhere differs
    rw [changes.here,← clock]
    exact effect

theorem aside_leaves {v : Visit} {response : Response} (ready : d.Ready (v :: visits)) (unnamed : v.call.subject? = none)
    (idle : response.succeeded = false) : d.Leaves v visits d response :=
  ⟨ready.rest,rfl,fun _ spent => spent.rest,.aside unnamed idle fun _ => rfl⟩

theorem updateStatus_effect (id status : String) (error branch : Option String) (ready : d.Ready visits)
    (present : d.backend.Keeps d.clock) :
    ∃ after answer found, d.updateStatus (.str id) (.str status) (.optStr error) branch = (after,answer) ∧
      d.Changes after id found ∧ Effect d.clock (.updateStatus id status error branch) (.done answer) (d.stored id) found := by
  unfold updateStatus
  cases known : Status.ofJson? (.str status) with
  | none => exact ⟨_,_,_,rfl,(log_alike d _).unchanged ready id,.kept rfl⟩
  | some target =>
    simp only
    by_cases reported : target.fromRuntime = true
    · rw [if_pos reported]
      refine moves_effect _ id ready present (Json.optStr_text error) ?_
      simp only [Call.move?,known,if_pos reported]
    · rw [if_neg reported]
      exact ⟨_,_,_,rfl,(log_alike d _).unchanged ready id,.kept rfl⟩

theorem perform_effect (call : Call) (named : call.subject? = some id) (ready : d.Ready visits)
    (present : d.backend.Keeps d.clock) : ∃ after response found, d.perform call = (after,response) ∧ d.Changes after id found ∧
      Effect d.clock call response (d.stored id) found := by
  cases call with
  | activate own =>
    cases named
    obtain ⟨after,answer,found,made,rest⟩ := moves_effect (.activate id) id ready present (Or.inl rfl) rfl
    exact ⟨after,.done answer,found,by simp only [perform,activate,made],rest⟩
  | resume own =>
    cases named
    obtain ⟨after,answer,found,made,rest⟩ := moves_effect (.resume id) id ready present (Or.inl rfl) rfl
    exact ⟨after,.done answer,found,by simp only [perform,resume,made],rest⟩
  | pause own =>
    cases named
    obtain ⟨after,answer,found,made,rest⟩ := moves_effect (.pause id) id ready present (Or.inl rfl) rfl
    exact ⟨after,.done answer,found,by simp only [perform,pause,made],rest⟩
  | cancel own =>
    cases named
    obtain ⟨after,answer,found,made,rest⟩ := cancel_effect id ready present
    exact ⟨after,.done answer,found,by simp only [perform,made],rest⟩
  | updateStatus own status error branch =>
    cases named
    obtain ⟨after,answer,found,made,rest⟩ := updateStatus_effect id status error branch ready present
    exact ⟨after,.done answer,found,by simp only [perform,made],rest⟩
  | recordExecution own =>
    cases named
    obtain ⟨after,answer,found,made,rest⟩ := recordExecution_effect id ready present
    exact ⟨after,.done answer,found,by simp only [perform,made],rest⟩
  | prepare own snapshot =>
    cases named
    obtain ⟨after,answer,found,made,rest⟩ := prepare_effect id snapshot ready present
    exact ⟨after,.prepared answer,found,by simp only [perform,made],rest⟩
  | create | get | list | stats => cases named

theorem perform_leaves {v : Visit} (clock : d.clock = v.now) (ready : d.Ready (v :: visits)) :
    d.Leaves v visits (d.perform v.call).1 (d.perform v.call).2 := by
  have present : d.backend.Keeps d.clock := by
    rw [clock]
    exact ready.clocks v List.mem_cons_self
  cases named : v.call.subject? with
  | some id =>
    obtain ⟨after,response,found,performed,changes,effect⟩ := perform_effect v.call named ready present
    rw [performed]
    exact named_leaves named clock ready changes effect
  | none =>
    cases asked : v.call with
    | create kind params =>
      obtain ⟨after,answer,made,leaves⟩ := create_leaves asked clock ready
      simpa only [perform,made] using leaves
    | get id => exact aside_leaves ready named rfl
    | list f p => exact aside_leaves ready named rfl
    | stats => exact aside_leaves ready named rfl
    | _ =>
      rw [asked] at named
      cases named

-- The time of a visit is no part of what makes a desk ready.
theorem Ready.timed (ready : d.Ready visits) (now : Timestamp) : Desk.Ready {d with clock := now} visits :=
  ⟨ready.working,ready.store,ready.clocks,ready.orders,ready.fresh,ready.distinct⟩

-- The one theorem about visits.
theorem visit_leaves {v : Visit} (ready : d.Ready (v :: visits)) :
    d.Leaves v visits (d.visit v).1 (d.visit v).2 := by
  obtain ⟨readyAfter,backend,spent,step⟩ := perform_leaves rfl (ready.timed v.now)
  refine ⟨readyAfter,backend,spent,?_⟩
  cases step with
  | aside unnamed idle same => exact .aside unnamed idle same
  | named subject effect elsewhere => exact .named subject effect elsewhere
  | created creates first answer new fresh here elsewhere => exact .created creates first answer new fresh here elsewhere

-- What is stored at one id, before and after a visit.
theorem step_at {v : Visit} {after : Desk} {response : Response} (step : d.Step v after response) (id : String) :
    after.stored id = d.stored id ∨
    (v.call.subject? = some id ∧ Effect v.now v.call response (d.stored id) (after.stored id)) ∨
      (v.call.creates = true ∧ id = d.idAt 0 ∧ d.stored id = none ∧ ∃ creation : Creation, response = .created (.ok creation) ∧
        after.stored id = some creation.order ∧ creation.order.New id v.now) := by
  cases step with
  | aside unnamed idle same => exact Or.inl (same id)
  | named subject effect elsewhere =>
    rename_i named
    by_cases own : id = named
    · subst own
      exact Or.inr (Or.inl ⟨subject,effect⟩)
    · exact Or.inl (elsewhere id own)
  | created creates first answer new fresh here elsewhere =>
    rename_i named creation
    by_cases own : id = named
    · subst own
      exact Or.inr (Or.inr ⟨creates,first,fresh,creation,answer,here,new⟩)
    · exact Or.inl (elsewhere id own)

theorem visit_named {v : Visit} (ready : d.Ready (v :: visits)) (subject : v.call.subject? = some id) :
    Effect v.now v.call (d.visit v).2 (d.stored id) ((d.visit v).1.stored id) := by
  cases (visit_leaves ready).step with
  | aside unnamed idle same =>
    rw [subject] at unnamed
    cases unnamed
  | named own effect elsewhere =>
    rw [subject] at own
    cases own
    exact effect
  | created creates first answer new fresh here elsewhere =>
    rw [Call.subject_creates subject] at creates
    cases creates

theorem visit_at {v : Visit} (ready : d.Ready (v :: visits)) (id : String) :
    (d.visit v).1.stored id = d.stored id ∨
    (v.call.subject? = some id ∧ Effect v.now v.call (d.visit v).2 (d.stored id) ((d.visit v).1.stored id)) ∨
      (v.call.creates = true ∧ id = d.idAt 0 ∧ d.stored id = none ∧ ∃ creation : Creation, (d.visit v).2 = .created (.ok creation) ∧
        (d.visit v).1.stored id = some creation.order ∧ creation.order.New id v.now) :=
  step_at (visit_leaves ready).step id

-- Where an order comes from: it was stored before, or it is new.
theorem visit_before {v : Visit} {after : Order} (ready : d.Ready (v :: visits)) (seen : (d.visit v).1.stored id = some after) :
    (∃ before, d.stored id = some before ∧
      (before = after ∨ Effect v.now v.call (d.visit v).2 (some before) (some after))) ∨
    (v.call.creates = true ∧ id = d.idAt 0 ∧ d.stored id = none ∧ ∃ creation : Creation, (d.visit v).2 = .created (.ok creation) ∧
      creation.order = after ∧ creation.order.New id v.now) := by
  rcases visit_at ready id with same | ⟨-,effect⟩ | ⟨creates,first,fresh,creation,answer,here,new⟩
  · exact Or.inl ⟨after,same ▸ seen,Or.inl rfl⟩
  · cases held : d.stored id with
    | none =>
      rw [held] at effect
      rw [effect.absent] at seen
      cases seen
    | some before =>
      rw [held,seen] at effect
      exact Or.inl ⟨before,rfl,Or.inr effect⟩
  · exact Or.inr ⟨creates,first,fresh,creation,answer,Option.some.inj (here.symm.trans seen),new⟩

section
variable {P : Order → Prop} (first : ∀ {id now o}, Order.New id now o → P o)
  (next : ∀ {now call response before after}, Effect now call response (some before) (some after) → P before → P after)
include first next

-- What new orders are like, and every effect keeps, all orders of a session are like.
theorem visit_holds {v : Visit} (ready : d.Ready (v :: visits)) (held : ∀ id o, d.stored id = some o → P o) :
    ∀ id o, (d.visit v).1.stored id = some o → P o := by
  intro id after seen
  rcases visit_before ready seen with ⟨before,stored,rfl | effect⟩ | ⟨-,-,-,creation,-,rfl,new⟩
  · exact held id _ stored
  · exact next effect (held id before stored)
  · exact first new

theorem run_holds {earlier later : List Visit} (ready : d.Ready (earlier ++ later))
    (held : ∀ id o, d.stored id = some o → P o) : ∀ id o, (d.run earlier).stored id = some o → P o := by
  induction earlier generalizing d with
  | nil => exact held
  | cons v earlier ih => exact ih (visit_leaves ready).ready (visit_holds first next ready held)

end

-- A session so far, and the visits that remain.
theorem run_ready {earlier later : List Visit} (ready : d.Ready (earlier ++ later)) :
    (d.run earlier).Ready later ∧ (d.run earlier).backend = d.backend ∧
      ∀ id, d.Spent (earlier ++ later) id → (d.run earlier).Spent later id := by
  induction earlier generalizing d with
  | nil => exact ⟨ready,rfl,fun _ spent => spent⟩
  | cons v earlier ih =>
    have leaves := visit_leaves ready
    obtain ⟨readyLater,backend,spent⟩ := ih leaves.ready
    exact ⟨readyLater,backend.trans leaves.backend,fun id before => spent id (leaves.spent id before)⟩

theorem Opened.ready_at {earlier later : List Visit} (opened : d.Opened visits) (split : visits = earlier ++ later) :
    (d.run earlier).Ready later := by
  subst split
  exact (run_ready (opened_ready opened)).1

end

end Desk
end OrderDesk
