import Mathlib.Data.List.Induction
import OrderDesk.Proofs.Desk.Creation
import OrderDesk.Proofs.Desk.Stamps

-- Active orders and their flows. The runtime is given a flow when its order is made and never again, so an
-- order whose flow it did not take stays without; it can be activated all the same.
namespace OrderDesk

theorem Flow.idOf_injective {a b : String} (same : idOf (.str a) = idOf (.str b)) : a = b := by
  have characters := congrArg String.toList same
  simp only [idOf,Draft.nodeId,Json.display,String.toList_append,List.append_cancel_right_eq] at characters
  exact String.toList_inj.mp characters

namespace Status

-- What only an activation leads to.
def started : Status → Bool
  | active | paused => true
  | _ => false

theorem started_waits {status : Status} (starts : status.started = true) : status.fromRuntime = false := by
  cases status <;> first | rfl | cases starts

theorem starts_edge {current target : Status} (edge : current.canMove target = true) (starts : target.started = true) :
    current.started = true ∨ current = .created ∧ target = .active := by
  cases current <;> cases target <;>
    first | exact Or.inl rfl | exact Or.inr ⟨rfl,rfl⟩ | exact absurd edge (by decide) | exact absurd starts (by decide)

end Status

-- A new order is started by its activation and by nothing else.
theorem Effect.starts {now : Timestamp} {call : Call} {response : Response} {before after : Order}
    (effect : Effect now call response (some before) (some after)) (starts : after.status.started = true) :
    before.status.started = true ∨ ((∃ id, call = .activate id) ∧ response = .done (.ok true)) := by
  rcases effect.edge with same | edge
  · exact Or.inl (same ▸ starts)
  · refine (Status.starts_edge edge starts).imp_right fun fresh => ?_
    obtain ⟨created,active⟩ := fresh
    cases effect with
    | kept idle => cases created.symm.trans active
    | moved asked allowed =>
      rw [Move.apply_status] at active starts
      cases call with
      | activate id => exact ⟨⟨id,rfl⟩,rfl⟩
      | resume id =>
        cases asked
        rw [created] at allowed
        cases allowed
      | pause id | cancel id =>
        cases asked
        cases active
      | updateStatus id status error branch =>
        simp only [Call.move?] at asked
        split at asked
        · split at asked
          · rename_i target known reported
            cases asked
            rw [Status.started_waits starts] at reported
            cases reported
          · cases asked
        · cases asked
      | _ => cases asked
    | flagged asked allowed => cases (Move.apply_status (.into .cancelled) now before).symm.trans active
    | executed asked takes => cases takes.active.symm.trans created
    | observed asked sees =>
      rcases sees.watched with watched | watched
      · cases watched.symm.trans created
      · cases watched.symm.trans created

namespace Desk

-- A runtime of which nothing was asked yet.
structure Untried (d : Desk) : Prop where
  there : d.runtime ≠ .none
  counted : d.Counted
  idle : ∀ flow, ¬ d.Enrolled flow

-- Only orders that are made already have flows that run.
def Claimed (d : Desk) (visits : List Visit) : Prop :=
  ∀ flow, d.Enrolled flow → ∃ id, flow = Flow.idOf (.str id) ∧ d.Spent visits id

-- A visit that makes an order, which is stored under the next id.
structure Makes (d : Desk) (v : Visit) (creation : Creation) : Prop where
  creates : v.call.creates = true
  answer : (d.visit v).2 = .created (.ok creation)
  here : (d.visit v).1.stored (d.idAt 0) = some creation.order
  flow : creation.flow.id = Flow.idOf (.str (d.idAt 0))
  stores : Stores {d with clock := v.now} (d.visit v).1 creation

section
variable {d : Desk} {v : Visit} {visits : List Visit} {id : String}

theorem timed_unasked (d : Desk) (now : Timestamp) : d.Unasked {d with clock := now} := ⟨rfl,rfl,rfl⟩

theorem perform_made {call : Call} {creation : Creation} (answer : (d.perform call).2 = .created (.ok creation)) :
    call.creates = true := by
  cases call <;> first | rfl | cases answer

-- The runtime is given the flow of the order that is made, and none otherwise.
theorem visit_engages (d : Desk) (v : Visit) : ∃ given, d.Engages (d.visit v).1 given ∧
    (∀ f, given = some f → v.call.creates = true ∧ f.id = Flow.idOf (.str (d.idAt 0))) ∧
    ∀ creation, (d.visit v).2 = .created (.ok creation) → given = some creation.flow := by
  cases creates : v.call.creates with
  | false =>
    refine ⟨none,(timed_unasked d v.now).before (perform_engages _ creates),?_,?_⟩
    · rintro f ⟨⟩
    · intro creation answer
      rw [perform_made answer] at creates
      cases creates
  | true =>
    cases asked : v.call with
    | create kind params =>
      obtain ⟨given,engages,named,answered⟩ := create_engages {d with clock := v.now} kind params
      rw [visit_create asked]
      refine ⟨given,(timed_unasked d v.now).before engages,fun f same => ⟨rfl,?_⟩,?_⟩
      · rw [named f same,nextId_place]
        rfl
      · exact fun creation answer => answered creation (Response.created.inj answer)
    | _ =>
      rw [asked] at creates
      cases creates

theorem Stores.makes {kind params : Json} {creation : Creation} (asked : v.call = .create kind params)
    (made : (create {d with clock := v.now} kind params).2 = .ok creation)
    (stores : Stores {d with clock := v.now} (create {d with clock := v.now} kind params).1 creation) : d.Makes v creation := by
  have first := nextId_place {d with clock := v.now}
  have visited := visit_create (d:=d) asked
  obtain ⟨o,drafts,-⟩ := create_made made
  refine ⟨by rw [asked]; rfl,by rw [visited,made],?_,drafts.id.trans (by rw [first]; rfl),by rwa [visited]⟩
  have here := stores.here
  rw [first] at here
  rw [visited]
  exact here

-- The id of a new order is new.
theorem timed_absent (ready : d.Ready (v :: visits)) (creates : v.call.creates = true) :
    stored {d with clock := v.now} (nextId {d with clock := v.now}).1 = none := by
  have more : creations (v :: visits) = creations visits + 1 := List.countP_cons_of_pos creates
  rw [nextId_place]
  exact (ready.timed v.now).fresh 0 (by omega)

theorem visit_drawn {kind params : Json} {plan : Draft} (ready : d.Ready (v :: visits)) (counted : d.Counted)
    (asked : v.call = .create kind params) (drawn : (Params.parse kind params >>= Template.draft d.settings.flow) = .ok plan) :
    ∃ creation, d.Makes v creation := by
  have absent := timed_absent ready (by rw [asked]; rfl)
  obtain ⟨creation,made,stores⟩ := create_stores (d:={d with clock := v.now}) ready.store absent
    (ready.clocks v List.mem_cons_self) counted ready.working drawn
  exact ⟨creation,stores.makes asked made⟩

theorem visit_makes (ready : d.Ready (v :: visits)) (counted : d.Counted) :
    (∃ creation, d.Makes v creation) ∨
      ((∀ creation, (d.visit v).2 ≠ .created (.ok creation)) ∧ ∀ flow, (d.visit v).1.Enrolled flow ↔ d.Enrolled flow) := by
  cases creates : v.call.creates with
  | false =>
    have engages := (timed_unasked d v.now).before (perform_engages {d with clock := v.now} creates)
    refine Or.inr ⟨?_,?_⟩
    · intro creation answer
      rw [perform_made answer] at creates
      cases creates
    · intro flow
      rw [visit,engages.enrolled counted]
      simp
  | true =>
    cases asked : v.call with
    | create kind params =>
      have whole := create_allOrNothing (d:={d with clock := v.now}) ready.store (timed_absent ready creates)
        (ready.clocks v List.mem_cons_self) counted ready.working kind params
      have visited := visit_create (d:=d) asked
      rcases whole with ⟨creation,made,stores⟩ | ⟨fault,failed,-,same⟩
      · exact Or.inl ⟨creation,stores.makes asked made⟩
      · refine Or.inr ⟨?_,by rwa [visited]⟩
        intro creation answer
        rw [visited,failed] at answer
        cases answer
    | _ =>
      rw [asked] at creates
      cases creates

theorem visit_counted (counted : d.Counted) (v : Visit) : (d.visit v).1.Counted :=
  perform_counted (d:={d with clock := v.now}) counted v.call

theorem visit_claimed (ready : d.Ready (v :: visits)) (counted : d.Counted) (claimed : d.Claimed (v :: visits)) :
    (d.visit v).1.Claimed visits := by
  have leaves := visit_leaves ready
  intro flow enrolled
  rcases visit_makes ready counted with ⟨creation,makes⟩ | ⟨-,same⟩
  · rcases (makes.stores.enrolled flow).mp enrolled with before | ⟨-,own⟩
    · obtain ⟨id,owner,spent⟩ := claimed flow before
      exact ⟨id,owner,leaves.spent id spent⟩
    · exact ⟨d.idAt 0,own.symm.trans makes.flow,stored_spent leaves.ready makes.here⟩
  · obtain ⟨id,owner,spent⟩ := claimed flow ((same flow).mp enrolled)
    exact ⟨id,owner,leaves.spent id spent⟩

theorem run_claimed {earlier later : List Visit} (ready : d.Ready (earlier ++ later)) (counted : d.Counted)
    (claimed : d.Claimed (earlier ++ later)) : (d.run earlier).Counted ∧ (d.run earlier).Claimed later := by
  induction earlier generalizing d with
  | nil => exact ⟨counted,claimed⟩
  | cons v earlier ih => exact ih (visit_leaves ready).ready (visit_counted counted v) (visit_claimed ready counted claimed)

-- Once the order is made, nothing is done about its flow.
theorem visit_steady (ready : d.Ready (v :: visits)) (counted : d.Counted) (spent : d.Spent (v :: visits) id) :
    (d.visit v).1.Enrolled (Flow.idOf (.str id)) ↔ d.Enrolled (Flow.idOf (.str id)) := by
  rcases visit_makes ready counted with ⟨creation,makes⟩ | ⟨-,same⟩
  · rw [makes.stores.enrolled,makes.flow]
    refine or_iff_left fun other => ?_
    have more : creations (v :: visits) = creations visits + 1 := List.countP_cons_of_pos makes.creates
    exact spent 0 (by omega) (Flow.idOf_injective other.2)
  · exact same _

theorem run_steady {earlier later : List Visit} (ready : d.Ready (earlier ++ later)) (counted : d.Counted)
    (spent : d.Spent (earlier ++ later) id) :
    (d.run earlier).Enrolled (Flow.idOf (.str id)) ↔ d.Enrolled (Flow.idOf (.str id)) := by
  induction earlier generalizing d with
  | nil => exact Iff.rfl
  | cons v earlier ih =>
    have leaves := visit_leaves ready
    exact (ih leaves.ready (visit_counted counted v) (leaves.spent id spent)).trans (visit_steady ready counted spent)

theorem run_there (there : d.runtime ≠ .none) (visits : List Visit) : (d.run visits).runtime ≠ .none := by
  induction visits generalizing d with
  | nil => exact there
  | cons v rest ih =>
    obtain ⟨given,engages,-⟩ := visit_engages d v
    exact ih fun gone => there (engages.absent.mp gone)

-- An order that is started now and was not before was activated in between.
theorem run_starts {earlier later : List Visit} (ready : d.Ready (earlier ++ later)) {before after : Order}
    (held : d.stored id = some before) (fresh : before.status.started = false)
    (seen : (d.run earlier).stored id = some after) (starts : after.status.started = true) :
    ∃ first v rest, earlier = first ++ v :: rest ∧ v.call = .activate id ∧ ((d.run first).visit v).2 = .done (.ok true) := by
  induction earlier using List.reverseRecOn generalizing after later with
  | nil =>
    cases held.symm.trans seen
    rw [starts] at fresh
    cases fresh
  | append_singleton earlier v ih =>
    rw [List.append_assoc] at ready
    have readyNow := (run_ready ready).1
    have spent := (run_ready ready).2.2 id (stored_spent ready held)
    rw [run_snoc] at seen
    have prior {middle : Order} (stored : (d.run earlier).stored id = some middle) (starts : middle.status.started = true) :
        ∃ first w rest, earlier ++ [v] = first ++ w :: rest ∧ w.call = .activate id ∧
          ((d.run first).visit w).2 = .done (.ok true) := by
      obtain ⟨first,w,rest,split,asked,answer⟩ := ih ready stored starts
      exact ⟨first,w,rest ++ [v],by rw [split,List.append_assoc]; rfl,asked,answer⟩
    rcases visit_at readyNow id with same | ⟨named,effect⟩ | ⟨creates,first,-⟩
    · rw [same] at seen
      exact prior seen starts
    · cases stored : (d.run earlier).stored id with
      | none =>
        rw [stored] at effect
        rw [effect.absent] at seen
        cases seen
      | some middle =>
        rw [stored,seen] at effect
        rcases effect.starts starts with already | ⟨⟨own,asked⟩,answer⟩
        · exact prior stored already
        · rw [asked] at named
          cases named
          exact ⟨earlier,v,[],rfl,asked,answer⟩
    · have more : creations ([v] ++ later) = creations later + 1 := List.countP_cons_of_pos creates
      exact absurd first.symm (spent 0 (by omega))

theorem lost_failed (there : d.runtime ≠ .none) (lost : d.enrols = false) :
    ∃ message forgets, d.reception = .failed message forgets := by
  unfold enrols at lost
  split at lost
  · exact absurd ‹_› there
  · cases answer : d.reception with
    | failed message forgets => exact ⟨message,forgets,rfl⟩
    | _ =>
      rw [answer] at lost
      cases lost

-- Any order that was only created can be activated.
theorem visit_activates {o : Order} (ready : d.Ready (v :: visits)) (asked : v.call = .activate id) (held : d.stored id = some o)
    (created : o.status = .created) :
    (d.visit v).2 = .done (.ok true) ∧ ∃ after, (d.visit v).1.stored id = some after ∧ after.status = .active := by
  have now := ready.timed v.now
  obtain ⟨sound,moments⟩ := ready.orders id o held
  have allowed : (Move.into .active).allows o.status = true := by rw [created]; rfl
  obtain ⟨announcements,decided⟩ := Move.decide_allowed (.str id) v.now allowed
  have found : stored {d with clock := v.now} id = some o := held
  rw [← found] at decided
  obtain ⟨after,written,changes⟩ := amend_store now decided (Move.apply_sound sound (Or.inl rfl))
    (Move.apply_moments moments (ready.clocks v List.mem_cons_self))
  have visited : d.visit v = (after,.done (.ok true)) := by
    rw [visit,asked,perform,activate,moves,move]
    dsimp only
    rw [written]
    rfl
  rw [visited]
  exact ⟨rfl,_,changes.here,Move.apply_status _ _ _⟩

end

-- What becomes of the flow of an order.
structure Tracked (d : Desk) (first : List Visit) (v : Visit) (rest : List Visit) (creation : Creation) (id : String) (o : Order) :
    Prop extends d.Made first v creation id o where
  flowId : o.flowId = .str creation.flow.id
  enrolled : (d.run (first ++ v :: rest)).Enrolled creation.flow.id ↔ (d.run first).enrols = true
  -- What was not taken is told by the order that was stored,
  lost : (d.run first).enrols = false → creation.order.status = .created ∧
    ∃ message : String, creation.order.error = .str s!"flow registration failed: {message}"
  -- and the order is started by an activation if it is started at all.
  activated : (d.run first).enrols = false → o.status.started = true → ∃ middle w last, rest = middle ++ w :: last ∧
    w.call = .activate id ∧ ((d.run (first ++ v :: middle)).visit w).2 = .done (.ok true)

-- Which orders of a session are active, and which of their flows are enrolled.
structure Monitors (d : Desk) (visits : List Visit) : Prop where
  tracked : ∀ earlier later, visits = earlier ++ later → ∀ id o, (d.run earlier).stored id = some o →
    ∃ first v rest creation, earlier = first ++ v :: rest ∧ d.Tracked first v rest creation id o
  -- No activation asks whether the flow was taken.
  activates : ∀ earlier v later, visits = earlier ++ v :: later → ∀ id o, v.call = .activate id →
    (d.run earlier).stored id = some o → o.status = .created →
    ((d.run earlier).visit v).2 = .done (.ok true) ∧
      ∃ after, (d.run (earlier ++ [v])).stored id = some after ∧ after.status = .active

section
variable {d : Desk} {visits : List Visit}

theorem made_tracked {first rest later : List Visit} {v : Visit} {creation : Creation} {id : String} {o : Order}
    (ready : d.Ready (first ++ v :: (rest ++ later))) (untried : d.Untried) (made : d.Made first v creation id o)
    (seen : (d.run (first ++ v :: rest)).stored id = some o) : d.Tracked first v rest creation id o := by
  have readyFirst := (run_ready ready).1
  obtain ⟨counted,claimed⟩ := run_claimed ready untried.counted fun flow enrolled => absurd enrolled (untried.idle flow)
  have there := run_there untried.there first
  have readyMade := (visit_leaves readyFirst).ready
  obtain ⟨own,makes⟩ : ∃ own, (d.run first).Makes v own :=
    (visit_makes readyFirst counted).resolve_right fun none => none.1 creation made.answer
  cases Response.created.inj (makes.answer.symm.trans made.answer)
  have named : creation.flow.id = Flow.idOf (.str id) := by rw [makes.flow,made.named]
  have later_on : d.run (first ++ v :: rest) = (((d.run first).visit v).1).run rest := run_append d first (v :: rest)
  have spent := stored_spent readyMade made.stored
  have flowId : creation.order.flowId = .str creation.flow.id := makes.stores.flowId
  have enrolled : ((d.run first).visit v).1.Enrolled creation.flow.id ↔ (d.run first).enrols = true := by
    rw [makes.stores.enrolled]
    constructor
    · rintro (before | ⟨takes,-⟩)
      · obtain ⟨owner,same,free⟩ := claimed _ before
        have more : creations (v :: (rest ++ later)) = creations (rest ++ later) + 1 := List.countP_cons_of_pos made.creates
        cases Flow.idOf_injective (named.symm.trans same)
        exact absurd made.named.symm (free 0 (by omega))
      · exact takes
    · exact fun takes => Or.inr ⟨takes,rfl⟩
  have lost (missed : (d.run first).enrols = false) : creation.order.status = .created ∧
      ∃ message : String, creation.order.error = .str s!"flow registration failed: {message}" := by
    obtain ⟨message,forgets,answer⟩ := lost_failed there missed
    obtain ⟨error,created⟩ := makes.stores.failed message forgets answer
    exact ⟨created,message,error⟩
  refine ⟨made,made.continues.flowId.trans flowId,?_,lost,?_⟩
  · rw [later_on,← enrolled,named]
    exact run_steady readyMade (visit_counted counted v) spent
  · intro missed starts
    rw [later_on] at seen
    have fresh : creation.order.status.started = false := by
      rw [(lost missed).1]
      rfl
    obtain ⟨middle,w,last,split,asked,answer⟩ := run_starts readyMade made.stored fresh seen starts
    refine ⟨middle,w,last,split,asked,?_⟩
    rw [run_append d first (v :: middle)]
    exact answer

theorem run_monitors (opened : d.Opened visits) (untried : d.Untried) : d.Monitors visits := by
  refine ⟨?_,?_⟩
  · rintro earlier later rfl id o seen
    have ready := opened_ready opened
    rcases run_origin ready (opened_holds opened) seen with ⟨before,held,-⟩ | ⟨first,v,rest,creation,rfl,made⟩
    · rw [opened_nothing opened id] at held
      cases held
    · rw [List.append_assoc] at ready
      exact ⟨first,v,rest,creation,rfl,made_tracked ready untried made seen⟩
  · intro earlier v later split id o asked held created
    rw [run_snoc]
    exact visit_activates (opened.ready_at split) asked held created

end

-- A runtime that is never reached.
def unreached : Desk := {vacant .memory with runtime := .remote ⟨fun _ => .failed "runtime offline" false,fun _ => .accepted⟩}

def neglected : List Visit := [placed.visit,⟨.origin,.activate "order_1"⟩]

-- The order is active, and nothing runs for it.
theorem neglected_monitors : unreached.Opened neglected ∧ unreached.Untried ∧ unreached.Monitors neglected ∧
    ∃ o, (unreached.run neglected).stored "order_1" = some o ∧ o.status = .active ∧
      o.flowId = .str "order_1:flow" ∧ ¬ (unreached.run neglected).Enrolled "order_1:flow" := by
  have empty : (vacant .memory).Opened neglected := vacant_opened fun _ _ => trivial
  have opened : unreached.Opened neglected := ⟨empty.empty,empty.working,empty.clocks,empty.distinct⟩
  have untried : unreached.Untried := by
    refine ⟨by simp [unreached],rfl,?_⟩
    rintro flow ⟨place,-,took⟩
    cases took
  have monitors := run_monitors opened untried
  refine ⟨opened,untried,monitors,?_⟩
  obtain ⟨plan,drawn⟩ := stopLoss_drawn
  obtain ⟨creation,makes⟩ := visit_drawn (v:=placed.visit) (opened_ready opened) untried.counted rfl drawn
  have created := (makes.stores.failed "runtime offline" false rfl).2
  obtain ⟨-,o,seen,active⟩ :=
    monitors.activates [placed.visit] ⟨.origin,.activate "order_1"⟩ [] rfl "order_1" creation.order rfl makes.here created
  obtain ⟨first,v,rest,own,split,tracked⟩ := monitors.tracked neglected [] rfl "order_1" o seen
  have enrolled := tracked.enrolled
  rw [← split] at enrolled
  -- Only the first of the two visits makes an order.
  obtain ⟨rfl,rfl⟩ : first = [] ∧ v = placed.visit := by
    match first,split with
    | [],split =>
      cases split
      exact ⟨rfl,rfl⟩
    | [_],split =>
      cases split
      cases tracked.creates
    | _ :: _ :: more,split => cases more <;> cases split
  cases Response.created.inj (makes.answer.symm.trans tracked.answer)
  have named : creation.flow.id = "order_1:flow" := makes.flow
  rw [named] at enrolled
  have flowId := tracked.flowId
  rw [named] at flowId
  refine ⟨o,seen,active,flowId,?_⟩
  rw [enrolled]
  exact Bool.false_ne_true

end Desk
end OrderDesk
