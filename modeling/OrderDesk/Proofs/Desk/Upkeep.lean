import OrderDesk.Proofs.Desk.Renewal
import OrderDesk.Proofs.Store.Twin

-- What a table holds. Every row is read as an order that can be written again and whose flow can be made,
-- whatever was called and whatever the runtime answered; that ids are handed out twice makes no difference to
-- it.
namespace OrderDesk

-- An order that a table takes and gives back as it is.
structure Order.Writable (id : String) (o : Order) : Prop where
  sound : o.Sound id
  legible : o.Moments Timestamp.Legible

-- The flow of the order can be made, and has the id that the record says.
structure Order.Charted (d : FlowDefaults) (o : Order) : Prop where
  drawn : ∃ plan, Template.draft d o.params = .ok plan
  flowId : o.flowId = .str (Flow.idOf o.id)

namespace Order
variable {d : FlowDefaults} {o before after : Order}

theorem Lasts.charted (lasts : before.Lasts after) (charted : before.Charted d) : after.Charted d := by
  refine ⟨?_,?_⟩
  · rw [lasts.params]
    exact charted.drawn
  · rw [lasts.flowId,lasts.id]
    exact charted.flowId

-- The flow that is made is the one of the record.
theorem Charted.flow {id : String} (charted : o.Charted d) (writable : o.Writable id) (now : Timestamp) :
    ∃ f, o.flow d now = .ok f ∧ f.id = Flow.idOf o.id := by
  obtain ⟨plan,drafted⟩ := charted.drawn
  exact ⟨_,flow_made writable.sound.params drafted now,rfl⟩

end Order

namespace Desk

-- At a desk with these settings a table in order, whose rows are all read as such orders.
structure Holds (d : Desk) (settings : Settings) (P : Order → Prop) : Prop where
  settings : d.settings = settings
  working : d.storage.broken = []
  rows : ∃ rows, d.storage.store = .table rows ∧
    ∀ r ∈ rows, ∃ id o, r.id = some id ∧ r.toOrder = .ok o ∧ o.Writable id ∧ P o

section
variable {d after : Desk} {settings : Settings} {P Q : Order → Prop} {id : String} {o : Order} {f : Flow}

theorem Alike.holds (alike : d.Alike after) (holds : d.Holds settings P) : after.Holds settings P := by
  refine ⟨alike.settings.trans holds.settings,?_,?_⟩
  · rw [alike.storage]
    exact holds.working
  · rw [alike.storage]
    exact holds.rows

namespace Holds

theorem weaken (holds : d.Holds settings P) (weaker : ∀ o, P o → Q o) : d.Holds settings Q := by
  obtain ⟨same,working,rows,table,reads⟩ := holds
  refine ⟨same,working,rows,table,?_⟩
  intro r member
  obtain ⟨id,o,own,read,writable,held⟩ := reads r member
  exact ⟨id,o,own,read,writable,weaker o held⟩

theorem timed (holds : d.Holds settings P) (now : Timestamp) : Holds {d with clock := now} settings P :=
  ⟨holds.settings,holds.working,holds.rows⟩

theorem works (holds : d.Holds settings P) (access : Access) : d.storage.working access = .ok () := by
  rw [Storage.working,Storage.fault?,holds.working]
  rfl

theorem sound (holds : d.Holds settings P) : d.storage.store.Sound := by
  obtain ⟨rows,table,reads⟩ := holds.rows
  rw [table]
  intro r member
  obtain ⟨-,o,-,read,-⟩ := reads r member
  exact ⟨o,read⟩

theorem found (holds : d.Holds settings P) (got : d.storage.get (.str id) = .ok (some o)) : o.Writable id ∧ P o := by
  obtain ⟨rows,table,reads⟩ := holds.rows
  rw [Storage.get,holds.works,table,bind_ok,Store.get,columnText,bind_ok] at got
  cases place : rows.find? (Store.rowHasId (some id)) with
  | none =>
    rw [place] at got
    cases got
  | some r =>
    obtain ⟨owner,own,named,read,writable,held⟩ := reads r (List.mem_of_find?_eq_some place)
    have same := (Store.rowHasId_text id r).mp (List.find?_some place)
    simp only [place,read,bind_ok,pure_ok] at got
    cases got
    cases named.symm.trans same
    exact ⟨writable,held⟩

-- The listing has the order of every row.
theorem listed (holds : d.Holds settings P) :
    ∃ orders, d.storage.list = .ok orders ∧ (∀ o ∈ orders, (∃ id, o.Writable id) ∧ P o) ∧
    d.Holds settings fun o => P o ∧ o ∈ orders := by
  obtain ⟨rows,table,reads⟩ := holds.rows
  have sorted := List.mergeSort_perm rows fun a b => a.createdAt ≤ b.createdAt
  obtain ⟨orders,made,same⟩ := Store.ordersOf_read (rows.mergeSort fun a b => a.createdAt ≤ b.createdAt) fun r member => by
    obtain ⟨-,o,-,read,-⟩ := reads r (sorted.mem_iff.mp member)
    exact ⟨o,read⟩
  have all : (orders.map (Except.ok (ε:=Fault))).Perm (rows.map Row.toOrder) := by
    rw [same]
    exact sorted.map Row.toOrder
  refine ⟨orders,?_,?_,holds.settings,holds.working,rows,table,?_⟩
  · rw [Storage.list,holds.works,table]
    exact made
  · intro o member
    obtain ⟨r,place,read⟩ := List.mem_map.mp (all.mem_iff.mp (List.mem_map_of_mem member))
    obtain ⟨id,own,-,found,writable,held⟩ := reads r place
    cases found.symm.trans read
    exact ⟨⟨id,writable⟩,held⟩
  · intro r place
    obtain ⟨id,o,named,read,writable,held⟩ := reads r place
    have shown : Except.ok o ∈ orders.map (Except.ok (ε:=Fault)) := by
      rw [all.mem_iff,← read]
      exact List.mem_map_of_mem place
    obtain ⟨own,member,same⟩ := List.mem_map.mp shown
    cases same
    exact ⟨id,o,named,read,writable,held,member⟩

theorem written {storage : Storage} (holds : d.Holds settings P) (writable : o.Writable id) (held : P o)
    (made : d.storage.write o = .ok storage) : Holds {d with storage} settings P := by
  obtain ⟨rows,table,reads⟩ := holds.rows
  obtain ⟨r,row,named,read⟩ := Row.toOrder_written writable.sound writable.legible
  obtain ⟨-,-,store,stored,rfl⟩ := Storage.write_parts.mp made
  rw [table,Store.set,row] at stored
  cases stored
  refine ⟨holds.settings,holds.working,_,rfl,?_⟩
  intro old member
  rcases List.mem_append.mp member with earlier | new
  · exact reads old (List.mem_filter.mp earlier).1
  · rw [List.mem_singleton.mp new]
    exact ⟨id,o,named,read,writable,held⟩

theorem set (holds : d.Holds settings P) (writable : o.Writable id) (held : P o) :
    Holds {d with storage := (d.storage.set o).1} settings P := by
  rcases Storage.set_cases d.storage o with ⟨fault,-,made⟩ | ⟨storage,stored,made⟩
  · rw [made]
    exact holds
  · rw [made]
    exact holds.written writable held stored

-- What was written is what is read next.
theorem reread {storage : Storage} (holds : d.Holds settings P) (writable : o.Writable id)
    (made : d.storage.write o = .ok storage) : storage.get (.str id) = .ok (some o) := by
  obtain ⟨rows,table,-⟩ := holds.rows
  have kept : o.Moments d.storage.store.backend.Keeps := by
    rw [table]
    exact writable.legible
  obtain ⟨store,written,becomes⟩ := Store.set_becomes holds.sound writable.sound kept
  obtain ⟨-,-,own,stored,rfl⟩ := Storage.write_parts.mp made
  cases stored.symm.trans written
  have works : Storage.working {d.storage with store} .get = .ok () := holds.works .get
  rw [Storage.get,works,bind_ok,Store.get_find becomes.sound,becomes.here]

theorem deleted (holds : d.Holds settings P) (owner : Json) : Holds {d with storage := (d.storage.delete owner).1} settings P := by
  obtain ⟨rows,table,reads⟩ := holds.rows
  unfold Storage.delete
  split
  · exact holds
  · rename_i removed
    rw [Storage.remove,holds.works,table,bind_ok,Store.delete] at removed
    cases text : columnText owner with
    | error fault =>
      rw [text] at removed
      cases removed
    | ok id =>
      rw [text] at removed
      cases removed
      exact ⟨holds.settings,holds.working,_,rfl,fun r member => reads r (List.mem_filter.mp member).1⟩

-- One decision on an order that was read; what it writes is such an order again.
theorem amend (holds : d.Holds settings P) (id : String) (decide : Option Order → Decision α)
    (writes : ∀ found, (∀ old, found = some old → old.Writable id ∧ P old) → ∀ o answer announcements,
      decide found = .store o answer announcements → o.Writable id ∧ P o) : (d.amend (.str id) decide).1.Holds settings P := by
  simp only [Desk.amend,Json.isKey,Bool.not_true,Bool.false_eq_true,if_false]
  cases got : d.storage.get (.str id) with
  | error fault => exact holds
  | ok found =>
    dsimp only
    cases decided : decide found with
    | fail fault => exact holds
    | keep answer entries => exact (logAll_alike d entries).holds holds
    | store o answer announcements =>
      have held : ∀ old, found = some old → old.Writable id ∧ P old := by
        rintro old rfl
        exact holds.found got
      obtain ⟨writable,kept⟩ := writes found held o answer announcements decided
      have stored := holds.set writable kept
      dsimp only
      generalize d.storage.set o = result at stored ⊢
      obtain ⟨storage,outcome⟩ := result
      cases outcome with
      | error fault => exact stored
      | ok done => exact (announceAll_alike _ o announcements).holds stored

theorem move (holds : d.Holds settings P) (present : d.clock.Legible) (id : String) {m : Move}
    (text : m.error = .null ∨ ∃ s, m.error = .str s)
    (moved : ∀ o, m.allows o.status = true → P o → P (m.apply d.clock o)) : (d.move (.str id) m).1.Holds settings P := by
  refine holds.amend id _ ?_
  intro found held o answer announcements decided
  cases found with
  | none => cases decided
  | some old =>
    obtain ⟨⟨sound,legible⟩,kept⟩ := held old rfl
    by_cases allowed : m.allows old.status = true
    · obtain ⟨_,made⟩ := Move.decide_allowed (.str id) d.clock allowed
      cases made.symm.trans decided
      exact ⟨⟨Move.apply_sound sound text,Move.apply_moments legible present⟩,moved old allowed kept⟩
    · obtain ⟨_,made⟩ := Move.decide_blocked (.str id) d.clock allowed
      cases made.symm.trans decided

theorem answered (holds : d.Holds settings P) (owner : Json) (reply : Reply) : (d.answered owner reply).Holds settings P := by
  unfold Desk.answered
  split
  · exact holds.deleted owner
  · exact holds

theorem asking (holds : d.Holds settings P) (cancel : Bool) (flow : Json) : (d.asking cancel flow).Holds settings P :=
  ⟨holds.settings,holds.working,holds.rows⟩

theorem running (holds : d.Holds settings P) (runtime : Runtime) : Holds {d with runtime} settings P :=
  ⟨holds.settings,holds.working,holds.rows⟩

theorem register (holds : d.Holds settings P) (owner : Json) (f : Flow) : (d.register owner f).1.Holds settings P := by
  unfold Desk.register
  split
  · exact holds
  · exact (log_alike _ _).holds (holds.running _)
  · exact (holds.asking false (.str f.id)).answered owner _

theorem stop (holds : d.Holds settings P) (owner flow : Json) : (d.stop owner flow).1.Holds settings P := by
  unfold Desk.stop
  split
  · exact holds
  · dsimp only
    split
    · exact (log_alike _ _).holds (holds.running _)
    · exact holds.running _
  · exact (holds.asking true flow).answered owner _

theorem registered (holds : d.Holds settings P) (o : Order) (f : Flow) : (d.registered o f).1.Holds settings P := by
  have offered := holds.register o.id f
  unfold Desk.registered
  generalize d.register o.id f = answered at offered ⊢
  obtain ⟨after,reply⟩ := answered
  cases reply with
  | accepted => exact offered
  | refused => exact offered
  | failed message forgets => exact (log_alike after _).holds offered

theorem accept (holds : d.Holds settings P) (writable : (o.entered d.settings.autoActivate d.clock d.reception).Writable id)
    (held : P (o.entered d.settings.autoActivate d.clock d.reception)) : (d.accept o f).1.Holds settings P := by
  have offered := holds.registered o f
  rw [accept_entered]
  have stored := offered.set writable held
  generalize (d.registered o f).1.storage.set (o.entered d.settings.autoActivate d.clock d.reception) = result at stored ⊢
  obtain ⟨storage,outcome⟩ := result
  cases outcome with
  | error fault => exact stored
  | ok done => exact (announceCreation_alike _ _).holds stored

theorem nextId (holds : d.Holds settings P) : d.nextId.2.Holds settings P := by
  unfold Desk.nextId
  split <;> exact ⟨holds.settings,holds.working,holds.rows⟩

-- A draft that is accepted becomes a row.
theorem drafted (holds : d.Holds settings P) (present : d.clock.Legible) (drafts : d.Drafts o f)
    (held : P (o.entered d.settings.autoActivate d.clock d.reception)) (e : Entry) :
    ((d.nextId.2.log e).accept o f).1.Holds settings P := by
  have same : (d.nextId.2.log e).settings = d.settings := nextId_settings d
  have clock : (d.nextId.2.log e).clock = d.clock := (nextId_same d).2
  have reception := (issued_unasked d e).reception
  have new := drafts.new.entered d.settings.autoActivate d.reception
  have writable : (o.entered d.settings.autoActivate d.clock d.reception).Writable d.nextId.1 := ⟨new.sound,new.moments present⟩
  rw [← same,← clock,← reception] at writable held
  exact ((log_alike _ e).holds holds.nextId).accept writable held

end Holds

-- Every order in the table is charted.
def Charted (d : Desk) (settings : Settings) : Prop := d.Holds settings (Order.Charted settings.flow)

theorem Drafts.charted (drafts : d.Drafts o f) : o.Charted d.settings.flow := by
  obtain ⟨plan,drafted,-⟩ := Order.flow_drafted drafts.new.params drafts.made
  refine ⟨⟨plan,drafted⟩,?_⟩
  rw [drafts.flowId,drafts.id,drafts.new.id]

theorem create_charted {kind params : Json} {creation : Creation} (answer : (d.create kind params).2 = .ok creation) :
    creation.order.Charted d.settings.flow := by
  obtain ⟨draft,drafts,entered⟩ := create_made answer
  rw [entered]
  exact (draft.entered_lasts _ _ _).charted drafts.charted

theorem amend_clock (d : Desk) (id : Json) (decide : Option Order → Decision α) : (d.amend id decide).1.clock = d.clock := by
  rcases amend_cases d id decide with ⟨fault,made⟩ | ⟨-,found,-,⟨answer,entries,-,made⟩ |
    ⟨o,answer,announcements,storage,-,-,⟨-,made⟩ | ⟨fault,-,made⟩⟩⟩
  · rw [made]
  · rw [made]
    exact (logAll_alike d entries).clock
  · rw [made]
    exact (announceAll_alike _ o announcements).clock
  · rw [made]

theorem stop_clock (d : Desk) (owner flow : Json) : (d.stop owner flow).1.clock = d.clock := by
  unfold stop
  split
  · rfl
  · dsimp only
    split <;> rfl
  · exact (answered_same _ owner _).2

namespace Charted

theorem create (charted : d.Charted settings) (present : d.clock.Legible) (kind params : Json) :
    (d.create kind params).1.Charted settings := by
  rcases create_cases d kind params with ⟨fault,made⟩ | ⟨fault,made⟩ | ⟨o,f,e,drafts,made⟩
  · rw [made]
    exact charted
  · rw [made]
    exact Holds.nextId charted
  · rw [made]
    have own := drafts.charted
    rw [charted.settings] at own
    exact Holds.drafted charted present drafts ((o.entered_lasts _ _ _).charted own) e

theorem move (charted : d.Charted settings) (present : d.clock.Legible) (id : String) {m : Move}
    (text : m.error = .null ∨ ∃ s, m.error = .str s) : (d.move (.str id) m).1.Charted settings :=
  Holds.move charted present id text fun o _ own => (Move.apply_lasts m d.clock o).charted own

theorem flagError (charted : d.Charted settings) (present : d.clock.Legible) (id message : String) :
    (d.flagError (.str id) message).1.Charted settings := by
  refine Holds.amend charted id _ ?_
  intro found held o answer announcements decided
  cases found with
  | none => cases decided
  | some old =>
    obtain ⟨⟨sound,legible⟩,kept⟩ := held old rfl
    cases decided
    exact ⟨⟨sound.flagged message d.clock,legible.flagged (.str message) present⟩,kept.drawn,kept.flowId⟩

theorem recordExecution (charted : d.Charted settings) (present : d.clock.Legible) (id : String) :
    (d.recordExecution (.str id)).1.Charted settings := by
  refine Holds.amend charted id _ ?_
  intro found held o answer announcements decided
  rcases Execution.decide_cases (.str id) d.clock found with
    ⟨fault,made⟩ | ⟨entries,made⟩ | ⟨old,after,before,later,last,own,stored,takes,made⟩
  · cases made.symm.trans decided
  · cases made.symm.trans decided
  · obtain ⟨⟨sound,legible⟩,kept⟩ := held old stored
    cases made.symm.trans decided
    exact ⟨⟨takes.sound sound,takes.moments (b:=.table) legible present⟩,takes.lasts.charted kept⟩

theorem prepare (charted : d.Charted settings) (present : d.clock.Legible) (id : String) (snapshot : Snapshot) :
    (d.prepare (.str id) snapshot).1.Charted settings := by
  refine Holds.amend charted id _ ?_
  intro found held o answer announcements decided
  rcases Tick.decide_cases (.str id) snapshot d.clock found with
    ⟨fault,made⟩ | ⟨own,entries,made⟩ | ⟨old,after,merged,trailing,ended,own,stored,sees,made⟩
  · cases made.symm.trans decided
  · cases made.symm.trans decided
  · obtain ⟨⟨sound,legible⟩,kept⟩ := held old stored
    cases made.symm.trans decided
    exact ⟨⟨sees.sound sound,sees.moments (b:=.table) legible present⟩,sees.lasts.charted kept⟩

theorem stopFlow (charted : d.Charted settings) (present : d.clock.Legible) (id : String) (o : Order) :
    (d.stopFlow (.str id) o).1.Charted settings := by
  have stopped : (d.stop o.id o.flowId).1.Charted settings := Holds.stop charted o.id o.flowId
  have clock := stop_clock d o.id o.flowId
  unfold Desk.stopFlow
  generalize d.stop o.id o.flowId = answered at stopped clock ⊢
  obtain ⟨after,reply⟩ := answered
  dsimp only at stopped clock
  rw [← clock] at present
  have flagged (e : Entry) (message : String) : ((after.log e).flagError (.str id) message).1.Charted settings :=
    flagError ((log_alike after e).holds stopped) present id message
  cases reply with
  | accepted => exact stopped
  | refused => exact flagged _ _
  | failed message forgets => exact flagged _ _

theorem cancel (charted : d.Charted settings) (present : d.clock.Legible) (id : String) :
    (d.cancel (.str id)).1.Charted settings := by
  have moved := charted.move present id (m:=.into .cancelled) (Or.inl rfl)
  have clock : (d.move (.str id) (.into .cancelled)).1.clock = d.clock := amend_clock d _ _
  unfold Desk.cancel
  generalize d.move (.str id) (.into .cancelled) = result at moved clock ⊢
  obtain ⟨after,answer⟩ := result
  dsimp only at moved clock
  rw [← clock] at present
  match answer with
  | .error fault => exact moved
  | .ok none => exact moved
  | .ok (some o) =>
    dsimp only
    split
    · exact moved
    · split
      · exact moved.stopFlow present id o
      · exact moved

theorem updateStatus (charted : d.Charted settings) (present : d.clock.Legible) (id : String) (status : Json)
    (error branch : Option String) : (d.updateStatus (.str id) status (.optStr error) branch).1.Charted settings := by
  have noted (e : Entry) : (d.log e).Charted settings := (log_alike d e).holds charted
  unfold Desk.updateStatus
  cases Status.ofJson? status with
  | none => exact noted _
  | some target =>
    dsimp only
    split
    · exact charted.move present id (Json.optStr_text error)
    · exact noted _

theorem perform (charted : d.Charted settings) (present : d.clock.Legible) (call : Call) : (d.perform call).1.Charted settings := by
  cases call with
  | create kind params => exact charted.create present kind params
  | activate id => exact charted.move present id (Or.inl rfl)
  | resume id => exact charted.move present id (Or.inl rfl)
  | pause id => exact charted.move present id (Or.inl rfl)
  | cancel id => exact charted.cancel present id
  | updateStatus id status error branch => exact charted.updateStatus present id _ error branch
  | recordExecution id => exact charted.recordExecution present id
  | prepare id snapshot => exact charted.prepare present id snapshot
  | get id | list f p | stats => exact charted

-- What a session leaves in its table.
theorem run (charted : d.Charted settings) {visits : List Visit} (legible : ∀ v ∈ visits, v.now.Legible) :
    (d.run visits).Charted settings := by
  induction visits generalizing d with
  | nil => exact charted
  | cons v rest ih =>
    have timed : Charted {d with clock := v.now} settings := Holds.timed charted v.now
    have visited : (d.visit v).1.Charted settings := timed.perform (legible v List.mem_cons_self) v.call
    exact ih visited fun w member => legible w (List.mem_cons_of_mem v member)

end Charted

end
end Desk
end OrderDesk
