import OrderDesk.Proofs.Notice.Occasion

-- What is received where one sink takes every message. It is what there was to tell of the orders, visit by
-- visit and in order, and nothing is lost on the way: whatever became of an order, its notice is rendered.
namespace OrderDesk

-- A message that tells that one order triggered.
def Message.triggers (id : String) (m : Message) : Bool :=
  m.orderId.str? == some id && (Event.ofName? m.event).any Event.triggers

namespace Desk

-- One sink that takes every message and never fails.
def Attentive (d : Desk) : Prop :=
  ∃ s : Sink, d.alarm = .sinks [s] ∧ s.channels = none ∧ ∀ turn, s.target.outcome turn = .arrived

-- The messages that arrived.
def received (d : Desk) : List Message :=
  (d.journal.flatMap Happening.deliveries).filterMap fun delivery => if delivery.arrived then some delivery.message else none

-- What was told between two desks, order by order and event by event.
structure Hears (d after : Desk) (told : List (String × Event)) : Prop where
  alarm : after.alarm = d.alarm
  heard : ∃ heard, after.received = d.received ++ heard ∧
    heard.map (fun m => (m.orderId,m.event)) = told.map fun occasion => (Json.str occasion.1,occasion.2.name)

section
variable {a b c d after : Desk} {told first second : List (String × Event)}

theorem Hears.still (alarm : after.alarm = d.alarm) (same : after.received = d.received) : d.Hears after [] :=
  ⟨alarm,[],by rw [same,List.append_nil],rfl⟩

theorem Hears.refl (d : Desk) : d.Hears d [] := still rfl rfl

theorem Hears.trans (before : a.Hears b first) (later : b.Hears c second) : a.Hears c (first ++ second) := by
  obtain ⟨alarm,heard,received,same⟩ := before
  obtain ⟨kept,more,rest,last⟩ := later
  refine ⟨kept.trans alarm,heard ++ more,?_,?_⟩
  · rw [rest,received,List.append_assoc]
  · rw [List.map_append,List.map_append,same,last]

-- What is quiet before or after is left out.

theorem Hears.then (before : a.Hears b first) (later : b.Hears c []) : a.Hears c first := by
  have all := before.trans later
  rwa [List.append_nil] at all

theorem Hears.timed {now : Timestamp} (hears : Hears {d with clock := now} after told) : d.Hears after told :=
  ⟨hears.alarm,hears.heard⟩

theorem Attentive.later (attentive : d.Attentive) (hears : d.Hears after told) : after.Attentive := by
  obtain ⟨s,alarm,rest⟩ := attentive
  exact ⟨s,hears.alarm.trans alarm,rest⟩

theorem log_hears (d : Desk) (e : Entry) : d.Hears (d.log e) [] := by
  refine .still rfl ?_
  simp [received,log,Happening.deliveries]

theorem logAll_hears (d : Desk) (entries : List Entry) : d.Hears (d.logAll entries) [] := by
  rw [logAll_journal]
  refine .still rfl ?_
  simp [received,List.flatMap_map,Happening.deliveries]

end

section
variable {d after : Desk} {o : Order} {id : String} {defaults : FlowDefaults}

theorem tell_hears (attentive : d.Attentive) (kept : o.Kept defaults) (named : o.id = .str id) (event : Event) :
    d.Hears (d.tell o event) [(id,event)] := by
  obtain ⟨s,alarm,unrestricted,arrives⟩ := attentive
  obtain ⟨n,rendered,orderId,name⟩ := Notice.render_made kept event
  have told : d.tell o event = {d with
      notices := d.notices + 1
      journal := d.journal ++ [.told n.message (deliver [s] d.notices n.message)]} := by
    unfold tell
    rw [alarm]
    dsimp only
    rw [rendered]
  have delivers : deliver [s] d.notices n.message = [⟨0,s.target,n.message,.arrived⟩] := by
    simp [deliver,deliverFrom,Sink.accepts,unrestricted,arrives]
  rw [told,delivers]
  refine ⟨rfl,[n.message],?_,?_⟩
  · simp [received,Happening.deliveries,Delivery.arrived]
  · simp [orderId,name,named]

theorem announceAll_hears (attentive : d.Attentive) (kept : o.Kept defaults) (named : o.id = .str id)
    (announcements : List Announcement) :
    d.Hears (d.announceAll o announcements) ((announcements.filterMap Announcement.event?).map (id,·)) := by
  induction announcements generalizing d with
  | nil => exact .refl d
  | cons announcement rest ih =>
    cases announcement with
    | entry e => exact (log_hears d e).trans (ih (attentive.later (log_hears d e)))
    | notice event =>
      have told := tell_hears attentive kept named event
      exact told.trans (ih (attentive.later told))

-- One decision that is written tells what it announces.
theorem amend_hears {visits : List Visit} {decide : Option Order → Decision α} {answer : α} {announcements : List Announcement}
    (ready : d.Ready visits) (attentive : d.Attentive) (decided : decide (d.stored id) = .store o answer announcements)
    (sound : o.Sound id) (moments : o.Moments d.backend.Keeps) (kept : o.Kept defaults) :
    ∃ after, d.amend (.str id) decide = (after,.ok answer) ∧ d.Changes after id (some o) ∧
      d.Hears after ((announcements.filterMap Announcement.event?).map (id,·)) := by
  obtain ⟨storage,written,changes⟩ := amend_announced ready decided sound moments
  have stored : d.Hears {d with storage} [] := .still rfl rfl
  exact ⟨_,written,changes,stored.trans (announceAll_hears (attentive.later stored) kept sound.id announcements)⟩

-- What announces nothing tells nothing, whether or not it is written.
theorem amend_quiet {id : Json} {decide : Option Order → Decision α}
    (silent : ∀ found o answer announcements, decide found = .store o answer announcements → announcements = []) :
    d.Hears (d.amend id decide).1 [] := by
  rcases amend_cases d id decide with ⟨fault,made⟩ | ⟨-,found,-,⟨answer,entries,-,made⟩ |
    ⟨o,answer,announcements,storage,decided,-,⟨-,made⟩ | ⟨fault,-,made⟩⟩⟩
  · rw [made]
    exact .refl d
  · rw [made]
    exact logAll_hears d entries
  · rw [made,silent _ _ _ _ decided]
    exact .still rfl rfl
  · rw [made]
    exact .still rfl rfl

-- The runtime is asked and answers in silence.

theorem answered_quiet (d : Desk) (owner : Json) (reply : Reply) : d.Hears (d.answered owner reply) [] := by
  unfold answered
  split
  · exact .still rfl rfl
  · exact .refl d

theorem asking_quiet (d : Desk) (cancel : Bool) (flow : Json) : d.Hears (d.asking cancel flow) [] := by
  refine .still rfl ?_
  simp [received,asking,Happening.deliveries]

theorem register_quiet (d : Desk) (owner : Json) (f : Flow) : d.Hears (d.register owner f).1 [] := by
  unfold register
  split
  · exact .refl d
  · rename_i r running
    have registered : d.Hears {d with runtime := .registry (r.register f)} [] := .still rfl rfl
    exact registered.then (log_hears _ _)
  · exact (asking_quiet d false (.str f.id)).then (answered_quiet _ owner _)

theorem stop_quiet (d : Desk) (owner flow : Json) : d.Hears (d.stop owner flow).1 [] := by
  unfold stop
  split
  · exact .refl d
  · rename_i r running
    have stopped : d.Hears {d with runtime := .registry (r.cancelBy flow).1} [] := .still rfl rfl
    dsimp only
    split
    · exact stopped.then (log_hears _ _)
    · exact stopped
  · exact (asking_quiet d true flow).then (answered_quiet _ owner _)

theorem flagError_quiet (d : Desk) (id : Json) (message : String) : d.Hears (d.flagError id message).1 [] := by
  refine amend_quiet fun found o answer announcements decided => ?_
  cases found <;> cases decided
  rfl

theorem stopFlow_quiet (d : Desk) (id : Json) (o : Order) : d.Hears (d.stopFlow id o).1 [] := by
  have stopped := stop_quiet d o.id o.flowId
  have flagged (after : Desk) (e : Entry) (message : String) : after.Hears ((after.log e).flagError id message).1 [] :=
    (log_hears after e).then (flagError_quiet _ id message)
  unfold stopFlow
  generalize d.stop o.id o.flowId = answered at stopped ⊢
  obtain ⟨after,reply⟩ := answered
  cases reply with
  | accepted => exact stopped
  | refused => exact stopped.then (flagged after _ _)
  | failed message forgets => exact stopped.then (flagged after _ _)

theorem registered_quiet (d : Desk) (o : Order) (f : Flow) : d.Hears (d.registered o f).1 [] := by
  have given := register_quiet d o.id f
  unfold registered
  generalize d.register o.id f = answered at given ⊢
  obtain ⟨after,reply⟩ := answered
  cases reply with
  | failed message forgets => exact given.then (log_hears after _)
  | _ => exact given

-- A new order is told to be there, and to be active where it is.
theorem announceCreation_hears (attentive : d.Attentive) (kept : o.Kept defaults) (named : o.id = .str id) :
    d.Hears (d.announceCreation o)
      ((id,.ofCreation o.kind) :: if o.status = .active then [(id,.orderActivated)] else []) := by
  unfold announceCreation
  dsimp only
  generalize orderEntry _ _ _ = entry
  have logged := log_hears d entry
  have created := logged.trans (tell_hears (attentive.later logged) kept named (.ofStatus o.kind .created none none))
  split
  · exact created.trans (tell_hears (attentive.later created) kept named (.ofStatus o.kind .active (some .created) none))
  · exact created

theorem create_hears (attentive : d.Attentive) (kind params : Json) :
    (∃ fault, (d.create kind params).2 = .error fault ∧ d.Hears (d.create kind params).1 []) ∨
      ∃ creation, (d.create kind params).2 = .ok creation ∧ d.Hears (d.create kind params).1
        ((d.nextId.1,.ofCreation creation.order.kind) ::
          if creation.order.status = .active then [(d.nextId.1,.orderActivated)] else []) := by
  have issued : d.Hears d.nextId.2 [] := by
    unfold nextId
    split <;> exact .still rfl rfl
  rcases create_cases d kind params with ⟨fault,made⟩ | ⟨fault,made⟩ | ⟨o,f,e,drafts,made⟩
  · rw [made]
    exact Or.inl ⟨fault,rfl,.refl d⟩
  · rw [made]
    exact Or.inl ⟨fault,rfl,issued⟩
  · have given := (issued.then (log_hears _ e)).then (registered_quiet (d.nextId.2.log e) o f)
    have clock : (d.nextId.2.log e).clock = d.clock := (nextId_same d).2
    rw [made,accept_entered,clock]
    have stored (storage : Storage) :
        d.Hears {((d.nextId.2.log e).registered o f).1 with storage} [] := given.then (.still rfl rfl)
    split
    · exact Or.inl ⟨_,rfl,stored _⟩
    · have named := (drafts.new.entered (d.nextId.2.log e).settings.autoActivate (d.nextId.2.log e).reception).id
      exact Or.inr ⟨_,rfl,(stored _).trans (announceCreation_hears (attentive.later (stored _)) (drafts.kept _ _) named)⟩

end

section
variable {d : Desk} {visits : List Visit} {id : String} {defaults : FlowDefaults}

theorem move_hears {m : Move} (call : Call) (asked : call.move? = some m) (ready : d.Ready visits) (present : d.backend.Keeps d.clock)
    (attentive : d.Attentive) (kept : ∀ o, d.stored id = some o → o.Kept defaults) (text : m.error = .null ∨ ∃ s, m.error = .str s) :
    (∃ after, d.move (.str id) m = (after,.ok none) ∧ d.Hears after []) ∨
      ∃ after o, d.stored id = some o ∧ d.move (.str id) m = (after,.ok (some (m.apply d.clock o))) ∧
        d.Changes after id (some (m.apply d.clock o)) ∧ d.Hears after [(id,.ofStatus o.kind m.target (some o.status) m.branch)] := by
  by_cases allowed : ∃ o, d.stored id = some o ∧ m.allows o.status = true
  · obtain ⟨o,held,allowed⟩ := allowed
    obtain ⟨sound,moments⟩ := ready.orders id o held
    obtain ⟨announcements,decided,events⟩ := Move.decide_tells (.str id) d.clock allowed
    have effect : Effect d.clock call (.done (.ok true)) (some o) (some (m.apply d.clock o)) := .moved asked allowed
    rw [← held] at decided
    obtain ⟨after,written,changes,hears⟩ := amend_hears ready attentive decided (Move.apply_sound sound text)
      (Move.apply_moments moments present) (effect.keeps (kept o held))
    rw [events] at hears
    exact Or.inr ⟨after,o,held,written,changes,hears⟩
  · obtain ⟨entries,decided⟩ := Move.decide_refused (.str id) d.clock fun o held moves => allowed ⟨o,held,moves⟩
    exact Or.inl ⟨_,amend_keep ready decided,logAll_hears d entries⟩

-- What is heard of a call for one order: all that it tells where it was done, and nothing where it was not.
def Reports (d : Desk) (call : Call) (id : String) (result : Desk × Except Fault Bool) : Prop :=
  (result.2 ≠ .ok true ∧ d.Hears result.1 []) ∨ ∃ o, d.stored id = some o ∧ result.2 = .ok true ∧
    d.Hears result.1 ((call.tells o (result.1.stored id) (.done (.ok true))).map (id,·))

theorem Reports.hears {call : Call} {result : Desk × Except Fault Bool} (reports : d.Reports call id result) :
    d.Hears result.1
      ((d.stored id).toList.flatMap fun before => (call.tells before (result.1.stored id) (.done result.2)).map (id,·)) := by
  rcases reports with ⟨undone,hears⟩ | ⟨o,held,done,hears⟩
  · have silent (before : Order) : call.tells before (result.1.stored id) (.done result.2) = [] := by
      unfold Call.tells
      split <;> first | rfl | exact absurd (Response.done.inj ‹_›) undone | cases ‹Response.done _ = Response.prepared _›
    have none : ((d.stored id).toList.flatMap fun before =>
        (call.tells before (result.1.stored id) (.done result.2)).map (id,·)) = [] :=
      List.flatMap_eq_nil_iff.mpr fun before _ => by rw [silent,List.map_nil]
    rwa [none]
  · simpa [held,done] using hears

theorem moves_reports {m : Move} (call : Call) (asked : call.move? = some m) (ready : d.Ready visits)
    (present : d.backend.Keeps d.clock) (attentive : d.Attentive) (kept : ∀ o, d.stored id = some o → o.Kept defaults)
    (text : m.error = .null ∨ ∃ s, m.error = .str s)
    (tells : ∀ o after, call.tells o after (.done (.ok true)) = [.ofStatus o.kind m.target (some o.status) m.branch]) :
    d.Reports call id (d.moves (.str id) m) := by
  rcases move_hears call asked ready present attentive kept text with ⟨after,moved,hears⟩ | ⟨after,o,held,moved,-,hears⟩
  · rw [moves,moved]
    exact Or.inl ⟨by rintro ⟨⟩,hears⟩
  · rw [moves,moved]
    refine Or.inr ⟨o,held,rfl,?_⟩
    rw [tells]
    exact hears

-- Whatever the runtime says, the order is cancelled and told to be.
theorem cancel_reports (ready : d.Ready visits) (present : d.backend.Keeps d.clock) (attentive : d.Attentive)
    (kept : ∀ o, d.stored id = some o → o.Kept defaults) : d.Reports (.cancel id) id (d.cancel (.str id)) := by
  rcases move_hears (.cancel id) rfl ready present attentive kept (Or.inl rfl) with
    ⟨after,moved,hears⟩ | ⟨after,o,held,moved,changes,hears⟩
  · rw [cancel,moved]
    exact Or.inl ⟨by rintro ⟨⟩,hears⟩
  · obtain ⟨soundAfter,readyAfter,keptAfter⟩ := cancelled_ready ready present held changes
    obtain ⟨stopped,found,answer,-,-⟩ := stopFlow_changes soundAfter.id readyAfter keptAfter
    have quiet := stopFlow_quiet after (.str id) ((Move.into .cancelled).apply d.clock o)
    rw [answer] at quiet
    rw [cancel,moved]
    dsimp only
    split
    · exact Or.inr ⟨o,held,rfl,hears⟩
    · split
      · rw [answer]
        exact Or.inr ⟨o,held,rfl,hears.then quiet⟩
      · exact Or.inr ⟨o,held,rfl,hears⟩

theorem updateStatus_reports (status : String) (error branch : Option String) (ready : d.Ready visits)
    (present : d.backend.Keeps d.clock) (attentive : d.Attentive) (kept : ∀ o, d.stored id = some o → o.Kept defaults) :
    d.Reports (.updateStatus id status error branch) id (d.updateStatus (.str id) (.str status) (.optStr error) branch) := by
  unfold updateStatus
  cases named : Status.ofJson? (.str status) with
  | none => exact Or.inl ⟨by rintro ⟨⟩,log_hears d _⟩
  | some target =>
    dsimp only
    by_cases reported : target.fromRuntime = true
    · rw [if_pos reported]
      refine moves_reports _ ?_ ready present attentive kept (Json.optStr_text error) ?_
      · simp only [Call.move?,named,if_pos reported]
      · intro o after
        simp only [Call.tells,named]
        rfl
    · rw [if_neg reported]
      exact Or.inl ⟨by rintro ⟨⟩,log_hears d _⟩

theorem recordExecution_reports (ready : d.Ready visits) (present : d.backend.Keeps d.clock) (attentive : d.Attentive)
    (kept : ∀ o, d.stored id = some o → o.Kept defaults) : d.Reports (.recordExecution id) id (d.recordExecution (.str id)) := by
  rcases Execution.decide_cases (.str id) d.clock (d.stored id) with
    ⟨fault,decided⟩ | ⟨entries,decided⟩ | ⟨o,after,before,later,last,_,held,takes,-⟩
  · rw [recordExecution,amend_fail ready decided]
    exact Or.inl ⟨by rintro ⟨⟩,.refl d⟩
  · rw [recordExecution,amend_keep ready decided]
    exact Or.inl ⟨by rintro ⟨⟩,logAll_hears d entries⟩
  · obtain ⟨sound,moments⟩ := ready.orders id o held
    obtain ⟨announcements,decided,events⟩ := takes.decides (.str id)
    have effect : Effect d.clock (.recordExecution id) (.done (.ok true)) (some o) (some after) := .executed rfl takes
    rw [← held] at decided
    obtain ⟨stored,written,changes,hears⟩ := amend_hears ready attentive decided (takes.sound sound) (takes.moments moments present)
      (effect.keeps (kept o held))
    rw [events,← takes.claims (kept o held).typed] at hears
    rw [recordExecution,written]
    refine Or.inr ⟨o,held,rfl,?_⟩
    rw [changes.here]
    exact hears

theorem prepare_hears (snapshot : Snapshot) (ready : d.Ready visits) (present : d.backend.Keeps d.clock) (attentive : d.Attentive)
    (kept : ∀ o, d.stored id = some o → o.Kept defaults) :
    d.Hears (d.prepare (.str id) snapshot).1 ((d.stored id).toList.flatMap fun before =>
      (Call.tells before ((d.prepare (.str id) snapshot).1.stored id) (.prepare id snapshot)
        (.prepared (d.prepare (.str id) snapshot).2)).map (id,·)) := by
  rcases Tick.decide_cases (.str id) snapshot d.clock (d.stored id) with
    ⟨fault,decided⟩ | ⟨answer,entries,decided⟩ | ⟨o,after,merged,trailing,ended,announcements,held,sees,decided⟩
  · rw [prepare,amend_fail ready decided]
    have none : ((d.stored id).toList.flatMap fun before =>
        (Call.tells before (d.stored id) (.prepare id snapshot) (.prepared (.error fault))).map (id,·)) = [] :=
      List.flatMap_eq_nil_iff.mpr fun _ _ => rfl
    rw [none]
    exact .refl d
  · rw [prepare,amend_keep ready decided]
    dsimp only
    rw [(logAll_alike d entries).stored]
    cases held : d.stored id with
    | none => exact logAll_hears d entries
    | some o =>
      have silent : (Response.prepared (.ok answer)).succeeded = false := rfl
      have idle := Call.tells_idle o (.prepare id snapshot) silent
      simpa [idle] using logAll_hears d entries
  · obtain ⟨sound,moments⟩ := ready.orders id o held
    have effect : Effect d.clock (.prepare id snapshot) (.prepared (.ok (some merged))) (some o) (some after) := .observed rfl sees
    have keptAfter := effect.keeps (kept o held)
    obtain ⟨stored,written,changes,hears⟩ := amend_hears ready attentive decided (sees.sound sound) (sees.moments moments present)
      keptAfter
    have marks : after.trailing = trailing := by
      rw [sees.record]
      split <;> rfl
    have rises := Trailing.rose_lifted (fun _ => (kept o held).trailing) (fun _ => keptAfter.trailing)
    rw [marks] at rises
    rw [held] at decided
    rw [sees.decides rises decided] at hears
    rw [prepare,written,held]
    dsimp only
    rw [changes.here]
    have triggers : (o.status = .active ∧ after.status = .triggered) ↔ ended = true := by
      have ends := sees.ends
      rw [sees.record]
      cases ended with
      | true => exact iff_of_true ⟨Tick.expired_active ends,rfl⟩ rfl
      | false =>
        refine iff_of_false ?_ Bool.false_ne_true
        rintro ⟨active,triggered⟩
        cases active.symm.trans triggered
    simpa [Call.tells,marks,triggers] using hears

-- What a visit tells is heard.
theorem visit_hears {v : Visit} (ready : d.Ready (v :: visits)) (attentive : d.Attentive)
    (kept : ∀ id o, d.stored id = some o → o.Kept d.settings.flow) : d.Hears (d.visit v).1 (d.occasions v) := by
  have now := ready.timed v.now
  have present := ready.clocks v List.mem_cons_self
  have timed : Attentive {d with clock := v.now} := attentive
  have activates (o : Order) : [if o.status = .paused then Event.orderResumed else .orderActivated] =
      [.ofStatus o.kind .active (some o.status) none] := by simp [Event.ofStatus]
  cases asked : v.call with
  | create kind params =>
    rw [occasions,asked,visit_create asked]
    have first : (nextId {d with clock := v.now}).1 = d.idAt 0 := nextId_place _
    rcases create_hears timed kind params with ⟨fault,failed,hears⟩ | ⟨creation,made,hears⟩
    · rw [failed]
      exact hears.timed
    · rw [made]
      rw [first] at hears
      exact hears.timed
  | activate id =>
    rw [occasions_named id (by rw [asked]; rfl),visit,asked,perform]
    exact (moves_reports (.activate id) rfl now present timed (kept id) (Or.inl rfl) fun o _ => activates o).hears.timed
  | resume id =>
    rw [occasions_named id (by rw [asked]; rfl),visit,asked,perform]
    exact (moves_reports (.resume id) rfl now present timed (kept id) (Or.inl rfl) fun o _ => activates o).hears.timed
  | pause id =>
    rw [occasions_named id (by rw [asked]; rfl),visit,asked,perform]
    exact (moves_reports (.pause id) rfl now present timed (kept id) (Or.inl rfl) fun _ _ => rfl).hears.timed
  | cancel id =>
    rw [occasions_named id (by rw [asked]; rfl),visit,asked,perform]
    exact (cancel_reports now present timed (kept id)).hears.timed
  | updateStatus id status error branch =>
    rw [occasions_named id (by rw [asked]; rfl),visit,asked,perform]
    exact (updateStatus_reports status error branch now present timed (kept id)).hears.timed
  | recordExecution id =>
    rw [occasions_named id (by rw [asked]; rfl),visit,asked,perform]
    exact (recordExecution_reports now present timed (kept id)).hears.timed
  | prepare id snapshot =>
    rw [occasions_named id (by rw [asked]; rfl),visit,asked,perform]
    exact (prepare_hears snapshot now present timed (kept id)).timed
  | get id | list f p | stats =>
    rw [occasions,visit,asked]
    exact .still rfl rfl

theorem run_hears {earlier later : List Visit} (ready : d.Ready (earlier ++ later)) (attentive : d.Attentive)
    (kept : ∀ id o, d.stored id = some o → o.Kept d.settings.flow) : d.Hears (d.run earlier) (d.history occasions earlier) := by
  induction earlier generalizing d with
  | nil => exact .refl d
  | cons v earlier ih =>
    have hears := visit_hears ready attentive kept
    exact hears.trans (ih (visit_leaves ready).ready (attentive.later hears) (visit_kept ready kept))

theorem history_triggersTold (d : Desk) (id : String) (visits : List Visit) : d.history (triggersTold id) visits =
    (d.history occasions visits).filter fun occasion => occasion.1 == id && occasion.2.triggers := by
  induction visits generalizing d with
  | nil => rfl
  | cons v visits ih => rw [history,history,List.filter_append,ih,triggersTold]

-- What is heard of triggers is what was told of them.
theorem heard_triggers {heard : List Message} {told : List (String × Event)} (id : String)
    (same : heard.map (fun m => (m.orderId,m.event)) = told.map fun occasion => (Json.str occasion.1,occasion.2.name)) :
    heard.countP (Message.triggers id) = (told.filter fun occasion => occasion.1 == id && occasion.2.triggers).length := by
  rw [← List.countP_eq_length_filter]
  induction heard generalizing told with
  | nil =>
    rw [List.map_eq_nil_iff.mp same.symm]
    rfl
  | cons m heard ih =>
    obtain ⟨occasion,rest,rfl,label,others⟩ := List.map_eq_cons_iff.mp same.symm
    have triggers : m.triggers id = (occasion.1 == id && occasion.2.triggers) := by
      obtain ⟨own,event⟩ := Prod.mk.inj label
      rw [Message.triggers,← own,← event]
      simp [Json.str?,Event.ofName_name]
    rw [List.countP_cons,List.countP_cons,triggers,ih others.symm]

end

-- What is heard of a session: what each visit tells, and of the trigger of an order once, as soon as it has triggered.
structure Bulletin (d : Desk) (visits : List Visit) (heard : List Message) : Prop where
  received : (d.run visits).received = d.received ++ heard
  told : heard.map (fun m => (m.orderId,m.event)) =
    (d.history occasions visits).map fun occasion => (.str occasion.1,occasion.2.name)
  once : ∀ id o, (d.run visits).stored id = some o → heard.countP (Message.triggers id) = if o.triggeredAt.isSome then 1 else 0

theorem run_bulletin {d : Desk} {visits : List Visit} (opened : d.Opened visits) (attentive : d.Attentive) :
    ∃ heard, d.Bulletin visits heard := by
  have whole : visits = visits ++ [] := (List.append_nil visits).symm
  have ready : d.Ready (visits ++ []) := whole ▸ opened_ready opened
  obtain ⟨-,heard,received,told⟩ := run_hears ready attentive (opened_holds opened)
  refine ⟨heard,received,told,?_⟩
  intro id o stored
  have counted := (run_told (triggersTold_telling id) ready (fun _ _ => trivial) (whole ▸ opened_told opened id _)).held o stored
  rw [heard_triggers id told,← history_triggersTold]
  exact counted.2.2

def rung : List Visit := [placed.visit,⟨.epoch,.updateStatus "order_1" "triggered" none none⟩]

theorem rung_bulletin : attended.Opened rung ∧ attended.Attentive ∧ ∃ heard, attended.Bulletin rung heard ∧ heard ≠ [] := by
  have empty : (vacant .memory).Opened rung := vacant_opened fun _ _ => trivial
  have opened : attended.Opened rung := ⟨empty.empty,empty.working,empty.clocks,empty.distinct⟩
  have attentive : attended.Attentive := ⟨⟨.console,none⟩,rfl,rfl,fun _ => rfl⟩
  obtain ⟨heard,bulletin⟩ := run_bulletin opened attentive
  refine ⟨opened,attentive,heard,bulletin,?_⟩
  rintro rfl
  obtain ⟨plan,drawn⟩ := stopLoss_drawn
  obtain ⟨creation,makes⟩ := visit_drawn (v:=placed.visit) (opened_ready opened) rfl rfl drawn
  have told := bulletin.told
  rw [rung,history,occasions,makes.answer] at told
  cases told

end Desk
end OrderDesk
