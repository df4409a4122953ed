import OrderDesk.Proofs.Desk.Trial

-- Two desks side by side, where every call comes. A relation that the parts of an operation keep is kept by
-- whole sessions, and what it lets be seen of an answer is the same at both.
namespace OrderDesk
namespace Desk

-- One thing done at two desks: they stay related, and give one answer.
structure Both (R : Desk → Desk → Prop) (x y : Desk × α) : Prop where
  desks : R x.1 y.1
  answer : y.2 = x.2

namespace Both
variable {R : Desk → Desk → Prop} {x y : Desk × α}

theorem map (both : Both R x y) (f : α → β) : Both R (x.1,f x.2) (y.1,f y.2) := ⟨both.desks,congrArg f both.answer⟩

theorem parts (both : Both R x y) : ∃ d e answer, x = (d,answer) ∧ y = (e,answer) ∧ R d e :=
  ⟨x.1,y.1,x.2,rfl,Prod.ext rfl both.answer,both.desks⟩

end Both

-- What a relation of two desks has to bear. Only a cancelled order may be read in two ways.
structure Steps (R : Desk → Desk → Prop) : Prop where
  clock : ∀ {a b}, R a b → b.clock = a.clock
  settings : ∀ {a b}, R a b → b.settings = a.settings
  logAll : ∀ {a b}, R a b → ∀ first second, R (a.logAll first) (b.logAll second)
  tell : ∀ {a b}, R a b → ∀ o event, R (a.tell o event) (b.tell o event)
  nextId : ∀ {a b}, R a b → Both R (a.nextId.2,a.nextId.1) (b.nextId.2,b.nextId.1)
  register : ∀ {a b}, R a b → ∀ id f, Both R (a.register (.str id) f) (b.register (.str id) f)
  reads : ∀ {a b}, R a b → ∀ id,
    (∃ fault, a.storage.get (.str id) = .error fault ∧ b.storage.get (.str id) = .error fault) ∨
    (∃ found, a.storage.get (.str id) = .ok found ∧ b.storage.get (.str id) = .ok found) ∨
      ∃ o p, a.storage.get (.str id) = .ok (some o) ∧ b.storage.get (.str id) = .ok (some p) ∧
        o.status = .cancelled ∧ p.status = .cancelled
  writes : ∀ {a b}, R a b → ∀ o, ∃ s t answer, a.storage.set o = (s,answer) ∧ b.storage.set o = (t,answer) ∧
    R {a with storage := s} {b with storage := t}

namespace Steps
variable {R : Desk → Desk → Prop} {a b : Desk}

theorem log (steps : Steps R) (same : R a b) (first second : Entry) : R (a.log first) (b.log second) :=
  steps.logAll same [first] [second]

theorem announceAll (steps : Steps R) (same : R a b) (o : Order) (announcements : List Announcement) :
    R (a.announceAll o announcements) (b.announceAll o announcements) := by
  induction announcements generalizing a b with
  | nil => exact same
  | cons announcement rest ih =>
    cases announcement with
    | entry e => exact ih (steps.log same e e)
    | notice event => exact ih (steps.tell same o event)

theorem announceCreation (steps : Steps R) (same : R a b) (o : Order) : R (a.announceCreation o) (b.announceCreation o) := by
  have created (e : Entry) (event : Event) := steps.tell (steps.log same e e) o event
  unfold Desk.announceCreation
  dsimp only
  split
  · exact steps.tell (created _ _) o _
  · exact created _ _

-- One decision, that has nothing to do for a cancelled order.
theorem amend (steps : Steps R) (same : R a b) (id : String) {decide : Option Order → Decision α} (no : α)
    (rests : ∀ o, o.status = .cancelled → ∃ entries, decide (some o) = .keep no entries) :
    Both R (a.amend (.str id) decide) (b.amend (.str id) decide) := by
  simp only [Desk.amend,Json.isKey,Bool.not_true,Bool.false_eq_true,if_false]
  rcases steps.reads same id with ⟨fault,here,there⟩ | ⟨found,here,there⟩ | ⟨o,p,here,there,ended,past⟩
  · simp only [here,there]
    exact ⟨same,rfl⟩
  · simp only [here,there]
    cases decide found with
    | fail fault => exact ⟨same,rfl⟩
    | keep answer entries => exact ⟨steps.logAll same entries entries,rfl⟩
    | store o answer announcements =>
      obtain ⟨s,t,outcome,here,there,stored⟩ := steps.writes same o
      cases outcome with
      | error fault =>
        simp only [here,there]
        exact ⟨stored,rfl⟩
      | ok done =>
        simp only [here,there]
        exact ⟨steps.announceAll stored o announcements,rfl⟩
  · obtain ⟨entries,first⟩ := rests o ended
    obtain ⟨others,second⟩ := rests p past
    simp only [here,there,first,second]
    exact ⟨steps.logAll same entries others,rfl⟩

theorem move (steps : Steps R) (same : R a b) (id : String) (m : Move) : Both R (a.move (.str id) m) (b.move (.str id) m) := by
  unfold Desk.move
  rw [steps.clock same]
  refine steps.amend same id none fun o ended => Move.decide_blocked (.str id) a.clock ?_
  simp [ended,Move.allows,Status.canMove,Status.next]

theorem moves (steps : Steps R) (same : R a b) (id : String) (m : Move) : Both R (a.moves (.str id) m) (b.moves (.str id) m) :=
  (steps.move same id m).map (Except.map Option.isSome)

theorem recordExecution (steps : Steps R) (same : R a b) (id : String) :
    Both R (a.recordExecution (.str id)) (b.recordExecution (.str id)) := by
  unfold Desk.recordExecution
  rw [steps.clock same]
  refine steps.amend same id false fun o ended => ⟨[],?_⟩
  simp [Execution.decide,ended]

theorem prepare (steps : Steps R) (same : R a b) (id : String) (snapshot : Snapshot) :
    Both R (a.prepare (.str id) snapshot) (b.prepare (.str id) snapshot) := by
  unfold Desk.prepare
  rw [steps.clock same]
  refine steps.amend same id none fun o ended => ⟨[],?_⟩
  simp [Tick.decide,ended]

theorem updateStatus (steps : Steps R) (same : R a b) (id : String) (status error : Json) (branch : Option String) :
    Both R (a.updateStatus (.str id) status error branch) (b.updateStatus (.str id) status error branch) := by
  unfold Desk.updateStatus
  split
  · exact ⟨steps.log same _ _,rfl⟩
  · split
    · exact steps.moves same id _
    · exact ⟨steps.log same _ _,rfl⟩

theorem registered (steps : Steps R) (same : R a b) {o : Order} {id : String} (named : o.id = .str id) (f : Flow) :
    Both R (a.registered o f) (b.registered o f) := by
  obtain ⟨d,e,reply,here,there,given⟩ := (steps.register same id f).parts
  unfold Desk.registered
  rw [named,here,there]
  cases reply with
  | failed message forgets => exact ⟨steps.log given _ _,by dsimp only; rw [steps.clock given]⟩
  | _ => exact ⟨given,rfl⟩

theorem accept (steps : Steps R) (same : R a b) {o : Order} {id : String} (named : o.id = .str id) (f : Flow) :
    Both R (a.accept o f) (b.accept o f) := by
  obtain ⟨d,e,⟨o,running⟩,here,there,given⟩ := (steps.registered same named f).parts
  have activates : e.settings.autoActivate = d.settings.autoActivate := congrArg Settings.autoActivate (steps.settings given)
  unfold Desk.accept
  rw [here,there]
  dsimp only
  rw [activates]
  generalize (if (running && d.settings.autoActivate) = true then {o with status := .active} else o) = final
  obtain ⟨s,t,outcome,first,second,stored⟩ := steps.writes given final
  cases outcome with
  | error fault =>
    simp only [first,second]
    exact ⟨stored,rfl⟩
  | ok done =>
    simp only [first,second]
    exact ⟨steps.announceCreation stored final,rfl⟩

theorem create (steps : Steps R) (same : R a b) (kind params : Json) : Both R (a.create kind params) (b.create kind params) := by
  obtain ⟨next,id⟩ := steps.nextId same
  unfold Desk.create
  split
  · exact ⟨same,rfl⟩
  · dsimp only at id next ⊢
    rw [id,steps.settings next,steps.clock next]
    split
    · exact ⟨next,rfl⟩
    · exact steps.accept (steps.log next _ _) rfl _

end Steps

-- As above, with what a runtime may say to cancellations, and what is seen of the answers.
structure Lockstep (R : Desk → Desk → Prop) (view : Response → Response) : Prop extends Steps R where
  cancel : ∀ {a b}, R a b → ∀ id, Both R (a.cancel (.str id)) (b.cancel (.str id))
  get : ∀ {a b}, R a b → ∀ id, view (.found (b.get (.str id))) = view (.found (a.get (.str id)))
  list : ∀ {a b}, R a b → ∀ f p, view (.listed (b.list f p)) = view (.listed (a.list f p))
  stats : ∀ {a b}, R a b → b.stats = a.stats
  during : ∀ {a b}, R a b → ∀ t, R (a.during t) (b.during t)
  mended : ∀ {a b}, R a b → R a.mended b.mended

namespace Lockstep
variable {R : Desk → Desk → Prop} {view : Response → Response} {a b : Desk}

-- One call, whatever it is.
theorem perform (steps : Lockstep R view) (same : R a b) (call : Call) :
    R (a.perform call).1 (b.perform call).1 ∧ view (b.perform call).2 = view (a.perform call).2 := by
  have answers {α : Type} {x y : Desk × α} {respond : α → Response} (both : Both R x y) :
      R x.1 y.1 ∧ view (respond y.2) = view (respond x.2) :=
    ⟨both.desks,congrArg (fun answer => view (respond answer)) both.answer⟩
  cases call with
  | create kind params => exact answers (steps.create same kind params)
  | activate id => exact answers (steps.moves same id _)
  | resume id => exact answers (steps.moves same id _)
  | pause id => exact answers (steps.moves same id _)
  | cancel id => exact answers (steps.cancel same id)
  | updateStatus id status error branch => exact answers (steps.updateStatus same id _ _ branch)
  | recordExecution id => exact answers (steps.recordExecution same id)
  | prepare id snapshot => exact answers (steps.prepare same id snapshot)
  | get id => exact ⟨same,steps.get same id⟩
  | list f p => exact ⟨same,steps.list same f p⟩
  | stats => exact ⟨same,congrArg (fun answer => view (.counted answer)) (steps.stats same)⟩

theorem endure (steps : Lockstep R view) (same : R a b) (t : Trial) :
    R (a.endure t).1 (b.endure t).1 ∧ view (b.endure t).2 = view (a.endure t).2 := by
  obtain ⟨desks,answer⟩ := steps.perform (steps.during same t) t.visit.call
  exact ⟨steps.mended desks,answer⟩

theorem endureAll (steps : Lockstep R view) (same : R a b) (trials : List Trial) : R (a.endureAll trials) (b.endureAll trials) := by
  induction trials generalizing a b with
  | nil => exact same
  | cons t rest ih => exact ih (steps.endure same t).1

end Lockstep
end Desk
end OrderDesk
