import OrderDesk.Desk.Task
import OrderDesk.Proofs.Desk.Upkeep

-- Desks that are opened for one task. Their registry is made from the table and has the flow of every order
-- that can be cancelled; so has the registry of a desk that stays open, and the two serve every task alike.
namespace OrderDesk

-- The registry has the flow of the order, unless the order is over.
def Registry.Runs (r : Registry) (o : Order) : Prop := o.terminal = false → (r.find? (Flow.idOf o.id)).isSome = true

-- What a verb asks for.
def Verb.asks : Verb → Move
  | activate => .into .active
  | pause => .into .paused
  | resume => {Move.into .active with only := some [.paused]}
  | cancel => .into .cancelled

-- An order that can be moved is not over.
theorem Move.allows_open {m : Move} {o : Order} (allowed : m.allows o.status = true) : o.terminal = false := by
  cases ended : o.terminal with
  | false => rfl
  | true =>
    have edge := Move.allows_edge allowed
    rw [Status.terminal_stays ended] at edge
    cases edge

namespace Desk

-- One thing done at two desks: they stay alike, and give one answer.
structure Agrees (x y : Desk × α) : Prop where
  desks : x.1.Alike y.1
  answer : y.2 = x.2

-- A desk with a registry of our own that runs the orders of its table.
def Staffed (d : Desk) (settings : Settings) : Prop :=
  ∃ r, d.runtime = .registry r ∧ d.Holds settings fun o => o.Charted settings.flow ∧ r.Runs o

section
variable {a b d : Desk} {settings : Settings} {r later : Registry} {o : Order}

-- Where two desks are alike, so are two that came of them and are no different.
theorem Alike.follow {x y : Desk} (alike : a.Alike b) (first : a.Alike x) (second : b.Alike y) : x.Alike y :=
  (first.symm.trans alike).trans second

theorem Alike.storing (alike : a.Alike b) (storage : Storage) : Alike {a with storage} {b with storage} :=
  ⟨alike.settings,rfl,alike.clock,alike.ids,alike.made⟩

namespace Agrees
variable {x y z : Desk × α}

theorem symm (agrees : Agrees x y) : Agrees y x := ⟨agrees.desks.symm,agrees.answer.symm⟩

theorem trans (first : Agrees x y) (second : Agrees y z) : Agrees x z :=
  ⟨first.desks.trans second.desks,second.answer.trans first.answer⟩

theorem map (agrees : Agrees x y) (f : α → β) : Agrees (x.1,f x.2) (y.1,f y.2) := ⟨agrees.desks,congrArg f agrees.answer⟩

theorem parts (agrees : Agrees x y) : ∃ d e answer, x = (d,answer) ∧ y = (e,answer) ∧ d.Alike e :=
  ⟨x.1,y.1,x.2,rfl,Prod.ext rfl agrees.answer,agrees.desks⟩

end Agrees

namespace Alike

-- What is decided depends on the store alone.
theorem amend (alike : a.Alike b) (id : Json) (decide : Option Order → Decision α) :
    Agrees (a.amend id decide) (b.amend id decide) := by
  unfold Desk.amend
  rw [alike.storage]
  split
  · exact ⟨alike,rfl⟩
  · cases a.storage.get id with
    | error fault => exact ⟨alike,rfl⟩
    | ok found =>
      dsimp only
      cases decide found with
      | fail fault => exact ⟨alike,rfl⟩
      | keep answer entries => exact ⟨alike.follow (logAll_alike a entries) (logAll_alike b entries),rfl⟩
      | store o answer announcements =>
        dsimp only
        obtain ⟨storage,outcome⟩ := a.storage.set o
        cases outcome with
        | error fault => exact ⟨alike.storing storage,rfl⟩
        | ok done =>
          exact ⟨(alike.storing storage).follow (announceAll_alike _ o announcements) (announceAll_alike _ o announcements),rfl⟩

theorem moves (alike : a.Alike b) (id : Json) (m : Move) : Agrees (a.moves id m) (b.moves id m) := by
  unfold Desk.moves move
  rw [alike.clock]
  exact (alike.amend id (m.decide id a.clock)).map (Except.map Option.isSome)

theorem nextId (alike : a.Alike b) : b.nextId.1 = a.nextId.1 ∧ a.nextId.2.Alike b.nextId.2 := by
  unfold Desk.nextId
  rw [alike.ids,alike.made]
  split
  · exact ⟨rfl,alike.settings,alike.storage,alike.clock,rfl,rfl⟩
  · exact ⟨rfl,alike.settings,alike.storage,alike.clock,rfl,rfl⟩

theorem makeFlow (alike : a.Alike b) (o : Order) : Agrees (a.makeFlow o) (b.makeFlow o) := by
  unfold Desk.makeFlow
  rw [alike.settings,alike.clock]
  split
  · exact ⟨alike,rfl⟩
  · exact ⟨alike.follow (log_alike a _) (log_alike b _),rfl⟩

theorem serveFlow (alike : a.Alike b) (id : String) : Agrees (a.serveFlow id) (b.serveFlow id) := by
  unfold Desk.serveFlow Desk.get
  rw [alike.storage]
  split
  · exact ⟨alike,rfl⟩
  · exact ⟨alike,rfl⟩
  · rename_i o _
    exact (alike.makeFlow o).map (Except.map Answer.flow)

end Alike

-- Our own registry takes whatever it is given, and the desk stays as it is.

theorem register_running (running : d.runtime = .registry r) (owner : Json) (f : Flow) :
    d.Alike (d.register owner f).1 ∧ (d.register owner f).1.runtime = .registry (r.register f) := by
  unfold register
  rw [running]
  exact ⟨⟨rfl,rfl,rfl,rfl,rfl⟩,rfl⟩

theorem registered_running (running : d.runtime = .registry r) (o : Order) (f : Flow) : d.Alike (d.registered o f).1 := by
  unfold registered register
  rw [running]
  exact ⟨rfl,rfl,rfl,rfl,rfl⟩

theorem stop_running {flow : String} (running : d.runtime = .registry r) (found : (r.find? flow).isSome = true) (owner : Json) :
    d.Alike (d.stop owner (.str flow)).1 ∧ (d.stop owner (.str flow)).2 = .accepted := by
  have accepted := Registry.cancelBy_found found
  unfold stop
  rw [running]
  dsimp only
  rw [accepted]
  exact ⟨⟨rfl,rfl,rfl,rfl,rfl⟩,rfl⟩

theorem reception_running (running : d.runtime = .registry r) : d.reception = .accepted := by
  rw [reception,running]

section
variable (first : a.runtime = .registry r) (second : b.runtime = .registry later)
include first second

theorem Alike.accept (alike : a.Alike b) (o : Order) (f : Flow) : Agrees (a.accept o f) (b.accept o f) := by
  have here := registered_running first o f
  have there := registered_running second o f
  have desks := alike.follow here there
  rw [accept_entered,accept_entered,reception_running first,reception_running second,alike.settings,alike.clock,here.storage,
    there.storage,alike.storage]
  obtain ⟨storage,outcome⟩ := a.storage.set (o.entered a.settings.autoActivate a.clock .accepted)
  cases outcome with
  | error fault => exact ⟨desks.storing storage,rfl⟩
  | ok done => exact ⟨(desks.storing storage).follow (announceCreation_alike _ _) (announceCreation_alike _ _),rfl⟩

theorem Alike.create (alike : a.Alike b) (kind params : Json) : Agrees (a.create kind params) (b.create kind params) := by
  obtain ⟨ids,next⟩ := alike.nextId
  have running : a.nextId.2.runtime = .registry r := (nextId_unasked a).runtime.trans first
  have runs : b.nextId.2.runtime = .registry later := (nextId_unasked b).runtime.trans second
  unfold Desk.create
  cases Params.parse kind params with
  | error fault => exact ⟨alike,rfl⟩
  | ok p =>
    dsimp only
    rw [ids,next.settings,next.clock]
    split
    · exact ⟨next,rfl⟩
    · have drafted (e : Entry) : (a.nextId.2.log e).Alike (b.nextId.2.log e) := next.follow (log_alike _ e) (log_alike _ e)
      exact Alike.accept (a:=a.nextId.2.log _) (b:=b.nextId.2.log _) running runs (drafted _) _ _

end

-- What is answered is the order that was read, moved.
theorem move_made {id : String} {m : Move} (moved : (d.move (.str id) m).2 = .ok (some o)) :
    ∃ old, d.storage.get (.str id) = .ok (some old) ∧ m.allows old.status = true ∧ o = m.apply d.clock old := by
  obtain ⟨found,got,decided⟩ := amend_reads moved
  obtain ⟨old,rfl,same⟩ := Move.decide_answer decided
  by_cases allowed : m.allows old.status = true
  · exact ⟨old,got,allowed,same⟩
  · obtain ⟨entries,refused⟩ := Move.decide_blocked (.str id) d.clock allowed
    rw [refused] at decided
    cases decided

-- An order that was moved is stored as it was answered.
theorem Holds.stored {P : Order → Prop} {id : String} {m : Move} (holds : d.Holds settings P) (present : d.clock.Legible)
    (plain : m.error = .null) (moved : (d.move (.str id) m).2 = .ok (some o)) :
    ∃ old, d.storage.get (.str id) = .ok (some old) ∧ m.allows old.status = true ∧ o = m.apply d.clock old ∧
      (d.move (.str id) m).1.get (.str id) = .ok (some o) := by
  obtain ⟨old,got,allowed,rfl⟩ := move_made moved
  obtain ⟨announcements,decided⟩ := Move.decide_allowed (.str id) d.clock allowed
  obtain ⟨⟨sound,legible⟩,-⟩ := holds.found got
  have writable : (m.apply d.clock old).Writable id := ⟨Move.apply_sound sound (Or.inl plain),Move.apply_moments legible present⟩
  refine ⟨old,got,allowed,rfl,?_⟩
  simp only [Desk.move,Desk.amend,Json.isKey,Bool.not_true,Bool.false_eq_true,if_false,got,decided] at moved ⊢
  rcases Storage.set_cases d.storage (m.apply d.clock old) with ⟨fault,-,made⟩ | ⟨storage,stored,made⟩
  · rw [made] at moved
    cases moved
  · rw [made,Storage.write_commit stored,Storage.commit_whole holds.working]
    dsimp only [Desk.get]
    rw [(announceAll_alike _ _ _).storage]
    exact holds.reread writable stored

theorem Holds.staffed (running : d.runtime = .registry later) (holds : d.Holds settings fun o => o.Charted settings.flow ∧ r.Runs o)
    (keeps : ∀ id, (r.find? id).isSome = true → (later.find? id).isSome = true) : d.Staffed settings :=
  ⟨later,running,holds.weaken fun _ own => ⟨own.1,fun lives => keeps _ (own.2 lives)⟩⟩

-- Looking at the order again changes nothing, and the answer says whether it was moved.
theorem serveMove_cases (d : Desk) (verb : Verb) (id : String) : (d.serveMove verb id).1 = (d.move? (.str id) verb).1 ∧
    ((∃ fault, (d.serveMove verb id).2 = .error fault) ∨ ∃ done current, (d.move? (.str id) verb).2 = .ok done ∧
      (d.serveMove verb id).2 = .ok (if done then .moved id current else .stays verb id current)) := by
  unfold serveMove
  generalize d.move? (.str id) verb = result
  obtain ⟨after,answer⟩ := result
  cases answer with
  | error fault => exact ⟨rfl,Or.inl ⟨fault,rfl⟩⟩
  | ok done =>
    refine ⟨rfl,?_⟩
    dsimp only
    cases after.get (.str id) with
    | error fault => exact Or.inl ⟨fault,rfl⟩
    | ok current => exact Or.inr ⟨done,current,rfl,rfl⟩

namespace Staffed

theorem timed (staffed : d.Staffed settings) (now : Timestamp) : Staffed {d with clock := now} settings := by
  obtain ⟨r,running,holds⟩ := staffed
  exact ⟨r,running,holds.timed now⟩

theorem charted (staffed : d.Staffed settings) : d.Charted settings := by
  obtain ⟨r,-,holds⟩ := staffed
  exact holds.weaken fun _ own => own.1

theorem noted (staffed : d.Staffed settings) (e : Entry) : (d.log e).Staffed settings := by
  obtain ⟨r,running,holds⟩ := staffed
  exact ⟨r,running,(log_alike d e).holds holds⟩

theorem moves (staffed : d.Staffed settings) (present : d.clock.Legible) (id : String) {m : Move} (plain : m.error = .null) :
    (d.moves (.str id) m).1.Staffed settings := by
  obtain ⟨r,running,holds⟩ := staffed
  refine ⟨r,(moves_unasked d _ m).runtime.trans running,holds.move present id (Or.inl plain) ?_⟩
  intro o allowed own
  refine ⟨(Move.apply_lasts m d.clock o).charted own.1,fun _ => ?_⟩
  rw [Move.apply_id]
  exact own.2 (Move.allows_open allowed)

-- The flow of what is cancelled is in the registry, so that a cancellation is a move like the others.
theorem cancels (staffed : d.Staffed settings) (id : String) :
    Agrees (d.moves (.str id) (.into .cancelled)) (d.cancel (.str id)) := by
  obtain ⟨r,running,holds⟩ := staffed
  have runs : (d.move (.str id) (.into .cancelled)).1.runtime = .registry r := (amend_unasked d _ _).runtime.trans running
  have found : ∀ o, (d.move (.str id) (.into .cancelled)).2 = .ok (some o) →
      o.flowId = .str (Flow.idOf o.id) ∧ (r.find? (Flow.idOf o.id)).isSome = true := by
    intro o moved
    obtain ⟨old,got,allowed,rfl⟩ := move_made moved
    obtain ⟨-,charted,lives⟩ := holds.found got
    rw [Move.apply_id,Move.apply_flowId]
    exact ⟨charted.flowId,lives (Move.allows_open allowed)⟩
  unfold Desk.cancel Desk.moves
  generalize d.move (.str id) (.into .cancelled) = result at runs found ⊢
  obtain ⟨after,answer⟩ := result
  match answer with
  | .error fault => exact ⟨.refl after,rfl⟩
  | .ok none => exact ⟨.refl after,rfl⟩
  | .ok (some o) =>
    obtain ⟨flowId,lives⟩ := found o rfl
    obtain ⟨alike,accepted⟩ := stop_running runs lives o.id
    dsimp only at runs ⊢
    rw [runs]
    dsimp only
    split
    · unfold stopFlow
      rw [flowId]
      generalize after.stop o.id (.str (Flow.idOf o.id)) = stopped at alike accepted ⊢
      obtain ⟨last,reply⟩ := stopped
      cases accepted
      exact ⟨alike,rfl⟩
    · exact ⟨.refl after,rfl⟩

theorem create (staffed : d.Staffed settings) (present : d.clock.Legible) (kind params : Json) :
    (d.create kind params).1.Staffed settings := by
  have before := staffed
  obtain ⟨r,running,holds⟩ := staffed
  rcases create_cases d kind params with ⟨fault,made⟩ | ⟨fault,made⟩ | ⟨o,f,e,drafts,made⟩
  · rw [made]
    exact before
  · rw [made]
    exact ⟨r,(nextId_unasked d).runtime.trans running,holds.nextId⟩
  · have engages : d.Engages ((d.nextId.2.log e).accept o f).1 (some f) := (issued_unasked d e).before (accept_engages _ o f)
    obtain ⟨later,runs,finds⟩ := engages.registry r running
    rw [made]
    refine ⟨later,runs,Holds.drafted (holds.weaken ?_) present drafts ⟨?_,fun _ => ?_⟩ e⟩
    · intro other own
      refine ⟨own.1,fun lives => ?_⟩
      rw [finds,Option.isSome_or,own.2 lives,Bool.or_true]
    · have own := drafts.charted
      rw [holds.settings] at own
      exact (o.entered_lasts _ _ _).charted own
    · rw [(o.entered_lasts _ _ _).id,drafts.new.id,← drafts.id,finds]
      simp [Option.filter]

theorem move? (staffed : d.Staffed settings) (verb : Verb) (id : String) :
    Agrees (d.moves (.str id) verb.asks) (d.move? (.str id) verb) := by
  cases verb with
  | cancel => exact staffed.cancels id
  | activate | pause | resume => exact ⟨.refl _,rfl⟩

theorem moved (staffed : d.Staffed settings) (present : d.clock.Legible) (verb : Verb) (id : String) :
    (d.move? (.str id) verb).1.Staffed settings := by
  have plain : verb.asks.error = .null := by cases verb <;> rfl
  have after := staffed.moves present id plain
  cases verb with
  | activate | pause | resume => exact after
  | cancel =>
    -- The registry only notes that the flow was cancelled.
    obtain ⟨r,running,holds⟩ := after
    have before : d.runtime = .registry r := (moves_unasked d (.str id) (.into .cancelled)).runtime.symm.trans running
    obtain ⟨later,runs,finds⟩ := (cancel_engages d (.str id)).registry r before
    refine Holds.staffed runs ((staffed.cancels id).desks.holds holds) fun id found => ?_
    rw [finds]
    exact found

theorem serveCreate (staffed : d.Staffed settings) (present : d.clock.Legible) (kind : String) (params : Json) :
    (d.serveCreate kind params).1.Staffed settings := by
  have after := staffed.create present (.str kind) params
  unfold Desk.serveCreate
  generalize d.create (.str kind) params = result at after ⊢
  obtain ⟨last,answer⟩ := result
  cases answer with
  | ok creation => exact after
  | error fault =>
    dsimp only
    split <;> exact after

theorem serveMove (staffed : d.Staffed settings) (present : d.clock.Legible) (verb : Verb) (id : String) :
    (d.serveMove verb id).1.Staffed settings := by
  rw [(serveMove_cases d verb id).1]
  exact staffed.moved present verb id

theorem serveFlow (staffed : d.Staffed settings) (id : String) : (d.serveFlow id).1.Staffed settings := by
  unfold Desk.serveFlow
  split
  · exact staffed
  · exact staffed
  · rename_i o _
    dsimp only
    unfold Desk.makeFlow
    split
    · exact staffed
    · exact staffed.noted _

theorem serve (staffed : d.Staffed settings) (present : d.clock.Legible) (t : Task) : (d.serve t).1.Staffed settings := by
  cases t with
  | create kind params => exact staffed.serveCreate present kind params
  | move verb id => exact staffed.serveMove present verb id
  | flow id => exact staffed.serveFlow id
  | list f p | order id | stats => exact staffed

theorem cancelled {id : String} (staffed : d.Staffed settings) (present : d.clock.Legible)
    (done : (d.cancel (.str id)).2 = .ok true) :
    ∃ o, d.get (.str id) = .ok (some o) ∧
      (d.cancel (.str id)).1.get (.str id) = .ok (some ((Move.into .cancelled).apply d.clock o)) := by
  have agrees := staffed.cancels id
  obtain ⟨r,-,holds⟩ := staffed
  have moves : (d.move (.str id) (.into .cancelled)).2.map Option.isSome = .ok true := agrees.answer.symm.trans done
  obtain ⟨o,moved⟩ : ∃ o, (d.move (.str id) (.into .cancelled)).2 = .ok (some o) := by
    cases answer : (d.move (.str id) (.into .cancelled)).2 with
    | error fault =>
      rw [answer] at moves
      cases moves
    | ok found =>
      rw [answer] at moves
      cases found with
      | none => cases moves
      | some o => exact ⟨o,rfl⟩
  obtain ⟨old,got,-,rfl,again⟩ := holds.stored present rfl moved
  refine ⟨old,got,?_⟩
  rw [get,agrees.desks.storage]
  exact again

end Staffed

-- A cancellation that succeeds changes the status and the time of the last change, and leaves no error behind.
theorem Staffed.clean {id : String} {final : Option Order} (staffed : d.Staffed settings) (present : d.clock.Legible)
    (answered : (d.serve (.move .cancel id)).2 = .ok (.moved id final)) :
    ∃ o, d.get (.str id) = .ok (some o) ∧
      (d.serve (.move .cancel id)).1.get (.str id) = .ok (some {o with status := .cancelled,updatedAt := d.clock}) := by
  obtain ⟨same,⟨fault,failed⟩ | ⟨done,current,made,answer⟩⟩ := serveMove_cases d .cancel id
  · cases failed.symm.trans answered
  · cases done with
    | false => cases answer.symm.trans answered
    | true =>
      obtain ⟨o,got,again⟩ := staffed.cancelled present made
      refine ⟨o,got,?_⟩
      rw [Desk.serve,same]
      exact again

section
variable (first : a.Staffed settings) (second : b.Staffed settings) (alike : a.Alike b)
include first second alike

theorem serveMove_agrees (verb : Verb) (id : String) : Agrees (a.serveMove verb id) (b.serveMove verb id) := by
  have moved : Agrees (a.move? (.str id) verb) (b.move? (.str id) verb) :=
    ((first.move? verb id).symm.trans (alike.moves (.str id) verb.asks)).trans (second.move? verb id)
  obtain ⟨x,y,answer,here,there,desks⟩ := moved.parts
  unfold serveMove
  rw [here,there]
  cases answer with
  | error fault => exact ⟨desks,rfl⟩
  | ok done =>
    refine ⟨desks,?_⟩
    dsimp only [Desk.get]
    rw [desks.storage]

theorem serveCreate_agrees (kind : String) (params : Json) : Agrees (a.serveCreate kind params) (b.serveCreate kind params) := by
  obtain ⟨r,running,-⟩ := first
  obtain ⟨later,runs,-⟩ := second
  obtain ⟨x,y,answer,here,there,desks⟩ := (Alike.create running runs alike (.str kind) params).parts
  unfold serveCreate
  rw [here,there]
  cases answer with
  | ok creation => exact ⟨desks,rfl⟩
  | error fault =>
    dsimp only
    split <;> exact ⟨desks,rfl⟩

-- Two desks that both run the orders of one table serve any task alike.
theorem serve_agrees (t : Task) : Agrees (a.serve t) (b.serve t) := by
  cases t with
  | create kind params => exact serveCreate_agrees first second alike kind params
  | move verb id => exact serveMove_agrees first second alike verb id
  | flow id => exact alike.serveFlow id
  | list f p | order id | stats =>
    refine ⟨alike,?_⟩
    simp only [serve,list,listing,get,stats,alike.storage]

end

-- Every flow that is made is registered, and none is lost again.
theorem resumeFlows_runs {orders : List Order} (running : d.runtime = .registry r)
    (held : ∀ o ∈ orders, (∃ id, o.Writable id) ∧ o.Charted d.settings.flow) :
    ∃ after later, d.resumeFlows orders = (after,.ok ()) ∧ d.Alike after ∧ after.runtime = .registry later ∧
      (∀ id, (r.find? id).isSome = true → (later.find? id).isSome = true) ∧ ∀ o ∈ orders, later.Runs o := by
  induction orders generalizing d r with
  | nil => exact ⟨d,r,rfl,.refl d,running,fun _ found => found,by simp⟩
  | cons o rest ih =>
    obtain ⟨⟨⟨id,writable⟩,charted⟩,others⟩ := List.forall_mem_cons.mp held
    rw [resumeFlows]
    cases ended : o.terminal with
    | true =>
      obtain ⟨after,later,made,alike,runs,keeps,all⟩ := ih running others
      refine ⟨after,later,made,alike,runs,keeps,List.forall_mem_cons.mpr ⟨?_,all⟩⟩
      intro lives
      rw [ended] at lives
      cases lives
    | false =>
      obtain ⟨f,made,named⟩ := charted.flow writable d.clock
      have flowed : d.makeFlow o = (d.log (flowEntry o f),.ok f) := by rw [makeFlow,made]
      obtain ⟨same,runs⟩ := register_running (d:=d.log (flowEntry o f)) running o.id f
      have alike := (log_alike d (flowEntry o f)).trans same
      obtain ⟨after,later,done,onward,last,keeps,all⟩ := ih runs (by rwa [alike.settings])
      simp only [Bool.false_eq_true,if_false,flowed]
      refine ⟨after,later,done,alike.trans onward,last,?_,List.forall_mem_cons.mpr ⟨?_,all⟩⟩
      · intro id found
        refine keeps id ?_
        rw [Registry.register_find]
        split
        · rfl
        · exact found
      · intro _
        refine keeps _ ?_
        rw [Registry.register_find,if_pos named]
        rfl

-- Whatever is in a table of charted orders, a desk can be opened over it, and runs its orders.
theorem Charted.reopened (charted : d.Charted settings) :
    ∃ after, d.reopen = (after,.ok ()) ∧ d.Alike after ∧ after.Staffed settings := by
  have cleared : d.Alike {d with runtime := .registry .empty} := ⟨rfl,rfl,rfl,rfl,rfl⟩
  obtain ⟨orders,listed,held,holds⟩ := (cleared.holds charted).listed
  have flow : d.settings.flow = settings.flow := by rw [charted.settings]
  obtain ⟨after,later,made,alike,runs,-,all⟩ := resumeFlows_runs (d:={d with runtime := .registry .empty}) rfl (by rwa [flow])
  refine ⟨after,?_,cleared.trans alike,later,runs,(alike.holds holds).weaken fun o own => ⟨own.1,all o own.2⟩⟩
  unfold reopen
  dsimp only at listed ⊢
  rw [listed]
  exact made

-- One desk stays open, the other is opened for the task.
theorem Staffed.alone (staffed : a.Staffed settings) (alike : a.Alike b) (t : Task) : Agrees (a.serve t) (b.serveAlone t) := by
  obtain ⟨opened,made,same,ready⟩ := Charted.reopened (alike.holds staffed.charted)
  unfold serveAlone
  rw [made]
  exact serve_agrees staffed ready (alike.trans same) t

end
end Desk
end OrderDesk
