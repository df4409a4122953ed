import OrderDesk.Proofs.Desk.Engagement
import OrderDesk.Proofs.Desk.Trial
import OrderDesk.Proofs.Flow.Template

-- What the creation of an order comes to, whatever the runtime answers and whether or not the store can be
-- written. The flow is registered before the order is stored, so a flow may be enrolled whose order is nowhere.
namespace OrderDesk

-- The order as it is stored once its flow was offered to the runtime.
def Order.entered (o : Order) (auto : Bool) (now : Timestamp) : Reply → Order
  | .failed message _ => {o with error := .str s!"flow registration failed: {message}",updatedAt := now}
  | _ => if auto then {o with status := .active} else o

theorem Order.New.entered {id : String} {now : Timestamp} {o : Order} (new : o.New id now) (auto : Bool) (reply : Reply) :
    (o.entered auto now reply).New id now := by
  have active : Order.New id now (if auto = true then {o with status := .active} else o) := by
    cases auto with
    | false => exact new
    | true => exact ⟨new.id,new.flow,new.error,new.params,Or.inr rfl,new.createdAt,new.updatedAt,new.triggeredAt,
        new.completedAt,new.trailing,new.schedule⟩
  cases reply with
  | accepted => exact active
  | refused => exact active
  | failed message forgets => exact ⟨new.id,new.flow,Or.inr ⟨_,rfl⟩,new.params,new.status,new.createdAt,rfl,new.triggeredAt,
      new.completedAt,new.trailing,new.schedule⟩

theorem Order.entered_lasts (o : Order) (auto : Bool) (now : Timestamp) (reply : Reply) : o.Lasts (o.entered auto now reply) := by
  cases reply <;> cases auto <;> exact ⟨rfl,rfl,rfl,rfl,rfl,rfl⟩

namespace Store

-- The orders as they are read, one by one.
def records : Store → List (Except Fault Order)
  | memory orders => orders.map .ok
  | table rows => rows.map Row.toOrder

theorem replace_absent {orders : List Order} {id : String} {o : Order} (named : o.id = .str id)
    (absent : orders.find? (hasId (.str id)) = none) : replace o orders = orders ++ [o] := by
  induction orders with
  | nil => rfl
  | cons old rest ih =>
    rw [List.find?_eq_none,List.forall_mem_cons] at absent
    rw [replace,named,if_neg absent.1,ih (List.find?_eq_none.mpr absent.2)]
    rfl

-- A new order is added after all others.
theorem set_absent {s : Store} {id : String} {o : Order} (sound : s.Sound) (absent : s.find id = none) (own : o.Sound id)
    (kept : o.Moments s.backend.Keeps) :
    ∃ after, s.set o = .ok after ∧ after.find id = some o ∧ after.records = s.records ++ [.ok o] := by
  obtain ⟨after,written,becomes⟩ := set_becomes sound own kept
  refine ⟨after,written,becomes.here,?_⟩
  cases s with
  | memory orders =>
    have made : set o (memory orders) = .ok (memory (replace o orders)) := by
      simp [set,own.id,usableId,Json.isKey,Except.map]
    cases written.symm.trans made
    rw [replace_absent own.id absent]
    simp [records]
  | table rows =>
    obtain ⟨r,row,idText,read⟩ := Row.toOrder_written own kept
    have made : set o (table rows) = .ok (table (rows.filter (!rowHasId (some id) ·) ++ [r])) := by
      simp only [set,row,Except.map,idText]
    cases written.symm.trans made
    rw [rows_absent sound absent]
    simp [records,read]

end Store

namespace Desk

-- An order that is about to be registered, and its flow.
structure Drafts (d : Desk) (o : Order) (f : Flow) : Prop where
  new : o.New d.nextId.1 d.clock
  created : o.status = .created
  error : o.error = .null
  flowId : o.flowId = .str f.id
  made : o.flow d.settings.flow d.clock = .ok f

section
variable {d : Desk} {o : Order} {f : Flow}

theorem Unasked.reception {after : Desk} (unasked : d.Unasked after) : after.reception = d.reception := by
  rw [Desk.reception,Desk.reception,unasked.runtime,unasked.requests]

theorem Drafts.id (drafts : d.Drafts o f) : f.id = Flow.idOf (.str d.nextId.1) := by
  obtain ⟨plan,-,same⟩ := Order.flow_drafted drafts.new.params drafts.made
  rw [same,Flow.ofDraft,drafts.new.id]

theorem nextId_settings (d : Desk) : d.nextId.2.settings = d.settings := by
  unfold nextId
  split <;> rfl

-- A creation fails at the input or at the flow, or there is a draft to be registered and stored.
theorem create_parts (d : Desk) (kind params : Json) :
    (∃ fault, Params.parse kind params = .error fault ∧ d.create kind params = (d,.error fault)) ∨
    (∃ p fault, Params.parse kind params = .ok p ∧ (Order.fresh d.nextId.1 p d.clock).flow d.settings.flow d.clock = .error fault ∧
      d.create kind params = (d.nextId.2,.error fault)) ∨
    ∃ o f e, Params.parse kind params = .ok o.params ∧ d.Drafts o f ∧ d.create kind params = (d.nextId.2.log e).accept o f := by
  have settings := nextId_settings d
  have clock := (nextId_same d).2
  unfold create
  cases parsed : Params.parse kind params with
  | error fault => exact Or.inl ⟨fault,rfl,rfl⟩
  | ok p =>
    dsimp only
    rw [settings,clock]
    cases made : (Order.fresh d.nextId.1 p d.clock).flow d.settings.flow d.clock with
    | error fault => exact Or.inr (Or.inl ⟨p,fault,rfl,made,rfl⟩)
    | ok f =>
      refine Or.inr (Or.inr ⟨{Order.fresh d.nextId.1 p d.clock with flowId := .str f.id},f,_,rfl,?_,rfl⟩)
      exact ⟨fresh_new (Params.parse_settled parsed) d.clock d.nextId.1 f.id,rfl,rfl,rfl,made⟩

theorem create_cases (d : Desk) (kind params : Json) :
    (∃ fault, d.create kind params = (d,.error fault)) ∨ (∃ fault, d.create kind params = (d.nextId.2,.error fault)) ∨
      ∃ o f e, d.Drafts o f ∧ d.create kind params = (d.nextId.2.log e).accept o f := by
  rcases create_parts d kind params with ⟨fault,-,made⟩ | ⟨p,fault,-,-,made⟩ | ⟨o,f,e,-,drafts,made⟩
  · exact Or.inl ⟨fault,made⟩
  · exact Or.inr (Or.inl ⟨fault,made⟩)
  · exact Or.inr (Or.inr ⟨o,f,e,drafts,made⟩)

theorem create_drafted {kind params : Json} {plan : Draft}
    (drawn : (Params.parse kind params >>= Template.draft d.settings.flow) = .ok plan) :
    ∃ o f e, Params.parse kind params = .ok o.params ∧ d.Drafts o f ∧ d.create kind params = (d.nextId.2.log e).accept o f := by
  obtain ⟨p,parsed,drafted⟩ := bind_eq_ok.mp drawn
  have settled := Params.parse_settled parsed
  have made := Order.flow_made (o:=Order.fresh d.nextId.1 p d.clock) settled drafted d.clock
  generalize Flow.ofDraft _ _ _ _ _ = f at made
  refine ⟨_,f,flowEntry (Order.fresh d.nextId.1 p d.clock) f,parsed,⟨fresh_new settled d.clock d.nextId.1 f.id,rfl,rfl,rfl,made⟩,?_⟩
  unfold create
  rw [parsed]
  dsimp only
  rw [nextId_settings,(nextId_same d).2,made]

theorem answered_same (d : Desk) (owner : Json) (reply : Reply) :
    (d.answered owner reply).settings = d.settings ∧ (d.answered owner reply).clock = d.clock := by
  unfold answered
  split <;> exact ⟨rfl,rfl⟩

theorem register_same (d : Desk) (owner : Json) (f : Flow) :
    (d.register owner f).1.settings = d.settings ∧ (d.register owner f).1.clock = d.clock := by
  unfold register
  split
  · exact ⟨rfl,rfl⟩
  · exact ⟨rfl,rfl⟩
  · exact answered_same _ owner _

theorem create_settings (d : Desk) (kind params : Json) : (d.create kind params).1.settings = d.settings := by
  have accepted (d : Desk) (o : Order) (f : Flow) : (d.accept o f).1.settings = d.settings := by
    have same := (register_same d o.id f).1
    have registered : (d.registered o f).1.settings = d.settings := by
      unfold registered
      generalize d.register o.id f = answered at same ⊢
      obtain ⟨after,reply⟩ := answered
      cases reply <;> exact same
    unfold accept
    generalize d.registered o f = registration at registered ⊢
    obtain ⟨after,kept,running⟩ := registration
    dsimp only at registered ⊢
    split
    · exact registered
    · exact (announceCreation_alike _ _).settings.trans registered
  rcases create_cases d kind params with ⟨fault,made⟩ | ⟨fault,made⟩ | ⟨o,f,e,-,made⟩
  · rw [made]
  · rw [made]
    exact nextId_settings d
  · rw [made,accepted]
    exact nextId_settings d

theorem registered_engages (d : Desk) (o : Order) (f : Flow) : d.Engages (d.registered o f).1 (some f) := by
  have given := register_engages d o.id f
  unfold registered
  generalize d.register o.id f = answered at given ⊢
  obtain ⟨after,reply⟩ := answered
  cases reply with
  | accepted => exact given
  | refused => exact given
  | failed message forgets => exact given.before (log_unasked after _)

theorem accept_engages (d : Desk) (o : Order) (f : Flow) : d.Engages (d.accept o f).1 (some f) := by
  have given := registered_engages d o f
  unfold accept
  generalize d.registered o f = registration at given ⊢
  obtain ⟨after,kept,running⟩ := registration
  dsimp only at given ⊢
  have written (storage : Storage) : after.Unasked {after with storage} := ⟨rfl,rfl,rfl⟩
  split
  · exact given.before (written _)
  · exact given.before ((written _).trans (announceCreation_unasked _ _))

-- What is registered without a failure may be active at once; a failure is kept as the error of the order.
theorem accept_entered (d : Desk) (o : Order) (f : Flow) :
    d.accept o f =
      match (d.registered o f).1.storage.set (o.entered d.settings.autoActivate d.clock d.reception) with
      | (storage,.error fault) => ({(d.registered o f).1 with storage},.error fault)
      | (storage,.ok ()) =>
        (announceCreation {(d.registered o f).1 with storage} (o.entered d.settings.autoActivate d.clock d.reception),
          .ok ⟨o.entered d.settings.autoActivate d.clock d.reception,f⟩) := by
  have answer := register_reply d o.id f
  have same := register_same d o.id f
  unfold accept registered
  generalize d.register o.id f = answered at answer same ⊢
  obtain ⟨after,reply⟩ := answered
  dsimp only at answer same ⊢
  obtain ⟨settings,clock⟩ := same
  rw [← answer,← settings,← clock]
  cases reply <;> rfl

-- The desk that the draft is registered at.
theorem issued_unasked (d : Desk) (e : Entry) : d.Unasked (d.nextId.2.log e) := (nextId_unasked d).trans (log_unasked _ e)

theorem create_made {kind params : Json} {creation : Creation} (answer : (d.create kind params).2 = .ok creation) :
    ∃ o, d.Drafts o creation.flow ∧ creation.order = o.entered d.settings.autoActivate d.clock d.reception := by
  rcases create_cases d kind params with ⟨fault,made⟩ | ⟨fault,made⟩ | ⟨o,f,e,drafts,made⟩
  · rw [made] at answer
    cases answer
  · rw [made] at answer
    cases answer
  · have settings : (d.nextId.2.log e).settings = d.settings := nextId_settings d
    have clock : (d.nextId.2.log e).clock = d.clock := (nextId_same d).2
    rw [made,accept_entered,settings,clock,(issued_unasked d e).reception] at answer
    split at answer
    · cases answer
    · cases answer
      exact ⟨o,drafts,rfl⟩

-- An order is stored with the parameters that were read.
theorem create_params {kind params : Json} {creation : Creation} (answer : (d.create kind params).2 = .ok creation) :
    Params.parse kind params = .ok creation.order.params := by
  rcases create_parts d kind params with ⟨fault,-,made⟩ | ⟨p,fault,-,-,made⟩ | ⟨o,f,e,parsed,-,made⟩
  · rw [made] at answer
    cases answer
  · rw [made] at answer
    cases answer
  · rw [made,accept_entered] at answer
    split at answer
    · cases answer
    · cases answer
      rw [parsed,(o.entered_lasts _ _ _).params]

-- The runtime is given the flow of the new order, or nothing.
theorem create_engages (d : Desk) (kind params : Json) : ∃ given, d.Engages (d.create kind params).1 given ∧
    (∀ f, given = some f → f.id = Flow.idOf (.str d.nextId.1)) ∧
    ∀ creation, (d.create kind params).2 = .ok creation → given = some creation.flow := by
  rcases create_cases d kind params with ⟨fault,made⟩ | ⟨fault,made⟩ | ⟨o,f,e,drafts,made⟩
  · rw [made]
    refine ⟨none,(Unasked.refl d).engages,?_,?_⟩
    · rintro f ⟨⟩
    · rintro creation ⟨⟩
  · rw [made]
    refine ⟨none,(nextId_unasked d).engages,?_,?_⟩
    · rintro f ⟨⟩
    · rintro creation ⟨⟩
  · rw [made]
    refine ⟨some f,(issued_unasked d e).before (accept_engages _ o f),?_,?_⟩
    · rintro f ⟨⟩
      exact drafts.id
    · intro creation answer
      rw [accept_entered] at answer
      split at answer
      · cases answer
      · cases answer
        rfl

end

-- What is there after a creation: one record more, with the flow that was given to the runtime.
structure Stores (d after : Desk) (creation : Creation) : Prop where
  here : after.stored d.nextId.1 = some creation.order
  records : after.storage.store.records = d.storage.store.records ++ [.ok creation.order]
  flowId : creation.order.flowId = .str creation.flow.id
  taken : d.reception.took = true →
    creation.order.error = .null ∧ creation.order.status = if d.settings.autoActivate then .active else .created
  failed : ∀ message forgets, d.reception = .failed message forgets →
    creation.order.error = .str s!"flow registration failed: {message}" ∧ creation.order.status = .created
  enrolled : ∀ flow, after.Enrolled flow ↔ d.Enrolled flow ∨ (d.enrols = true ∧ creation.flow.id = flow)

-- An order is stored, or nothing has happened, neither here nor in the runtime.
def AllOrNothing (d : Desk) (kind params : Json) : Prop :=
  (∃ creation, (d.create kind params).2 = .ok creation ∧ d.Stores (d.create kind params).1 creation) ∨
    ∃ fault, (d.create kind params).2 = .error fault ∧ d.Untouched (d.create kind params).1 ∧
      ∀ flow, (d.create kind params).1.Enrolled flow ↔ d.Enrolled flow

-- The flow of an order that could not be stored.
structure Strands (d after : Desk) (fault : Fault) : Prop where
  unstored : ∃ o storage, o.id = .str d.nextId.1 ∧ d.storage.set o = (storage,.error fault)
  enrols : d.enrols = true
  enrolled : ∀ flow, after.Enrolled flow ↔ d.Enrolled flow ∨ flow = Flow.idOf (.str d.nextId.1)

-- An order is stored, or nothing has happened here but that a table may have the row of the order that it could not commit; the
-- runtime may be left with the flow of an order that could not be stored.
def Whole (d : Desk) (kind params : Json) : Prop :=
  (∃ creation, (d.create kind params).2 = .ok creation ∧ d.Stores (d.create kind params).1 creation) ∨
    ∃ fault, (d.create kind params).2 = .error fault ∧
      (d.Untouched (d.create kind params).1 ∨ d.Uncommitted (d.create kind params).1 d.nextId.1 fault) ∧
      ((∀ flow, (d.create kind params).1.Enrolled flow ↔ d.Enrolled flow) ∨ d.Strands (d.create kind params).1 fault)

section
variable {d : Desk} {o : Order} {f : Flow} {storage : Storage}

-- The store decides about a draft once it was offered to the runtime.
theorem Drafts.entered (drafts : d.Drafts o f) (sound : d.storage.store.Sound) (absent : d.stored d.nextId.1 = none) (e : Entry) :
    (d.nextId.2.log e).accept o f =
      match d.storage.set (o.entered d.settings.autoActivate d.clock d.reception) with
      | (storage,.error fault) => ({((d.nextId.2.log e).registered o f).1 with storage},.error fault)
      | (storage,.ok ()) =>
        (announceCreation {((d.nextId.2.log e).registered o f).1 with storage}
          (o.entered d.settings.autoActivate d.clock d.reception),.ok ⟨o.entered d.settings.autoActivate d.clock d.reception,f⟩) := by
  have storage : (d.nextId.2.log e).storage = d.storage := (nextId_same d).1
  have settings : (d.nextId.2.log e).settings = d.settings := nextId_settings d
  have clock : (d.nextId.2.log e).clock = d.clock := (nextId_same d).2
  have registered := registered_absent (d:=d.nextId.2.log e) drafts.new.id (by rwa [storage]) (by rwa [Desk.stored,storage]) f
  have kept : ((d.nextId.2.log e).registered o f).1.storage = d.storage := registered.1.storage.trans storage
  have entered := accept_entered (d.nextId.2.log e) o f
  rw [kept,settings,clock,(issued_unasked d e).reception] at entered
  exact entered

-- A draft is stored where the store takes it,
theorem Drafts.written (drafts : d.Drafts o f) (sound : d.storage.store.Sound) (absent : d.stored d.nextId.1 = none)
    (present : d.backend.Keeps d.clock)
    (set : d.storage.set (o.entered d.settings.autoActivate d.clock d.reception) = (storage,.ok ())) (e : Entry) :
    ∃ creation : Creation, creation = ⟨o.entered d.settings.autoActivate d.clock d.reception,f⟩ ∧
      ((d.nextId.2.log e).accept o f).2 = .ok creation ∧
      ((d.nextId.2.log e).accept o f).1.stored d.nextId.1 = some creation.order ∧
      ((d.nextId.2.log e).accept o f).1.storage.store.records = d.storage.store.records ++ [.ok creation.order] := by
  have new := drafts.new.entered d.settings.autoActivate d.reception
  obtain ⟨store,written,here,records⟩ := Store.set_absent sound absent new.sound (new.moments present)
  obtain ⟨-,-,own,stored,rfl⟩ := Storage.write_parts.mp (Storage.set_done.mp set).1
  cases stored.symm.trans written
  have entered := drafts.entered sound absent e
  rw [set] at entered
  refine ⟨_,rfl,by rw [entered],?_,?_⟩
  · rw [entered,(announceCreation_alike _ _).stored]
    exact here
  · rw [entered,(announceCreation_alike _ _).storage]
    exact records

-- and a store that is in order takes it.
theorem Drafts.set_whole (drafts : d.Drafts o f) (sound : d.storage.store.Sound) (present : d.backend.Keeps d.clock)
    (whole : d.storage.broken = []) :
    ∃ storage, d.storage.set (o.entered d.settings.autoActivate d.clock d.reception) = (storage,.ok ()) := by
  have new := drafts.new.entered d.settings.autoActivate d.reception
  obtain ⟨store,written,-⟩ := Store.set_becomes sound new.sound (new.moments present)
  exact ⟨_,Storage.set_whole whole written⟩

theorem Drafts.accepted (drafts : d.Drafts o f) (sound : d.storage.store.Sound) (absent : d.stored d.nextId.1 = none)
    (present : d.backend.Keeps d.clock) (counted : d.Counted)
    (set : d.storage.set (o.entered d.settings.autoActivate d.clock d.reception) = (storage,.ok ())) (e : Entry) :
    ∃ creation, ((d.nextId.2.log e).accept o f).2 = .ok creation ∧ d.Stores ((d.nextId.2.log e).accept o f).1 creation := by
  have engages : d.Engages ((d.nextId.2.log e).accept o f).1 (some f) := (issued_unasked d e).before (accept_engages _ o f)
  obtain ⟨creation,same,answer,here,records⟩ := drafts.written sound absent present set e
  refine ⟨creation,answer,here,records,?_,?_,?_,?_⟩
  · rw [same]
    exact (o.entered_lasts _ _ _).flowId.trans drafts.flowId
  · intro took
    rw [same]
    dsimp only
    cases reply : d.reception with
    | failed message forgets =>
      rw [reply] at took
      cases took
    | _ =>
      cases auto : d.settings.autoActivate with
      | false => exact ⟨drafts.error,drafts.created⟩
      | true => exact ⟨drafts.error,rfl⟩
  · intro message forgets reply
    rw [same,reply]
    exact ⟨rfl,drafts.created⟩
  · intro flow
    rw [engages.enrolled counted,Option.map_some,Option.some.injEq,same]

-- Where the store does not, the runtime keeps what it took.
theorem Drafts.unstored {fault : Fault} (drafts : d.Drafts o f) (sound : d.storage.store.Sound) (absent : d.stored d.nextId.1 = none)
    (counted : d.Counted)
    (set : d.storage.set (o.entered d.settings.autoActivate d.clock d.reception) = (storage,.error fault)) (e : Entry) :
    ((d.nextId.2.log e).accept o f).2 = .error fault ∧ ((d.nextId.2.log e).accept o f).1.storage = storage ∧
      ∀ flow, ((d.nextId.2.log e).accept o f).1.Enrolled flow ↔
        d.Enrolled flow ∨ (d.enrols = true ∧ flow = Flow.idOf (.str d.nextId.1)) := by
  have engages : d.Engages ((d.nextId.2.log e).accept o f).1 (some f) := (issued_unasked d e).before (accept_engages _ o f)
  have entered := drafts.entered sound absent e
  rw [set] at entered
  refine ⟨by rw [entered],by rw [entered],?_⟩
  intro flow
  rw [engages.enrolled counted,Option.map_some,drafts.id,Option.some.injEq,eq_comm (a:=flow)]

-- A creation is all or nothing where the store is in order.
theorem create_allOrNothing (sound : d.storage.store.Sound) (absent : d.stored d.nextId.1 = none) (present : d.backend.Keeps d.clock)
    (counted : d.Counted) (whole : d.storage.broken = []) (kind params : Json) : d.AllOrNothing kind params := by
  have untouched {fault : Fault} (failed : (d.create kind params).2 = .error fault) : d.Untouched (d.create kind params).1 := by
    rcases create_outcome sound absent kind params with ⟨_,answer,-⟩ | ⟨_,-,⟨-,untouched⟩ | ⟨⟨⟨o,-,written⟩,commit,-,-⟩,-⟩⟩
    · cases answer.symm.trans failed
    · exact untouched
    · rw [Storage.write_commit written,Storage.commit_whole whole] at commit
      cases commit
  rcases create_cases d kind params with ⟨fault,made⟩ | ⟨fault,made⟩ | ⟨o,f,e,drafts,made⟩
  · refine Or.inr ⟨fault,by rw [made],untouched (by rw [made]),fun flow => ?_⟩
    rw [made]
  · refine Or.inr ⟨fault,by rw [made],untouched (by rw [made]),fun flow => ?_⟩
    rw [made]
    exact (nextId_unasked d).enrolled flow
  · obtain ⟨storage,set⟩ := drafts.set_whole sound present whole
    have accepted := drafts.accepted sound absent present counted set e
    rw [← made] at accepted
    exact Or.inl accepted

theorem create_written {kind params : Json} {creation : Creation} (sound : d.storage.store.Sound)
    (absent : d.stored d.nextId.1 = none) (present : d.backend.Keeps d.clock)
    (answer : (d.create kind params).2 = .ok creation) : (d.create kind params).1.stored d.nextId.1 = some creation.order := by
  rcases create_cases d kind params with ⟨fault,made⟩ | ⟨fault,made⟩ | ⟨o,f,e,drafts,made⟩
  · rw [made] at answer
    cases answer
  · rw [made] at answer
    cases answer
  · rw [made] at answer ⊢
    cases set : d.storage.set (o.entered d.settings.autoActivate d.clock d.reception) with
    | mk storage outcome =>
      cases outcome with
      | error fault =>
        rw [drafts.entered sound absent,set] at answer
        cases answer
      | ok done =>
        obtain ⟨own,-,accepted,here,-⟩ := drafts.written sound absent present set e
        cases accepted.symm.trans answer
        exact here

-- An order that is drawn up is stored where nothing is out of order.
theorem create_stores {kind params : Json} {plan : Draft} (sound : d.storage.store.Sound) (absent : d.stored d.nextId.1 = none)
    (present : d.backend.Keeps d.clock) (counted : d.Counted) (whole : d.storage.broken = [])
    (drawn : (Params.parse kind params >>= Template.draft d.settings.flow) = .ok plan) :
    ∃ creation, (d.create kind params).2 = .ok creation ∧ d.Stores (d.create kind params).1 creation := by
  obtain ⟨o,f,e,-,drafts,made⟩ := create_drafted drawn
  obtain ⟨storage,set⟩ := drafts.set_whole sound present whole
  rw [made]
  exact drafts.accepted sound absent present counted set e

theorem visit_create {v : Visit} {kind params : Json} (asked : v.call = .create kind params) : d.visit v =
    ((create {d with clock := v.now} kind params).1,.created (create {d with clock := v.now} kind params).2) := by
  rw [visit,asked,perform_create]

theorem perform_counted (counted : d.Counted) (call : Call) : (d.perform call).1.Counted := by
  cases creates : call.creates with
  | false => exact (perform_engages d creates).counted counted
  | true =>
    cases call with
    | create kind params =>
      obtain ⟨given,engages,-,-⟩ := create_engages d kind params
      exact engages.counted counted
    | _ => cases creates

end

def stopLoss : Json := .obj [("token",.str "ETH"),("triggerPrice",.int 100)]

-- Our own registry takes every flow.
def registering : Desk := {vacant .memory with runtime := .registry .empty}

theorem stopLoss_drawn : ∃ plan, (Params.parse (.str "stop-loss") stopLoss >>= Template.draft .standard) = .ok plan := by
  have drawn : (Params.parse (.str "stop-loss") stopLoss >>= Template.draft .standard).toOption.isSome = true := by decide +kernel
  obtain ⟨plan,made⟩ := Option.isSome_iff_exists.mp drawn
  exact ⟨plan,Checked.toOption_eq_some.mp made⟩

def uncommitted : Trial := ⟨placed.visit,[(.commit,.raised "OperationalError" "disk full")]⟩

end Desk
end OrderDesk
