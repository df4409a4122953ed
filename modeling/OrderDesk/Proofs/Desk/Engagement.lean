import OrderDesk.Proofs.Desk.Settled

-- What the runtime has. A flow is enrolled once the runtime was given it and did not fail, and stays so. Of all
-- that is done at a desk only a new order gives the runtime a flow.
namespace OrderDesk

-- A runtime that does not fail has taken the flow.
def Reply.took : Reply → Bool
  | failed .. => false
  | _ => true

namespace Registry

theorem replace_find (f : Flow) (flows : List Flow) (id : String) :
    (replace f flows).find? (fun flow => flow.id == id) =
      if f.id = id then some f else flows.find? fun flow => flow.id == id := by
  induction flows with
  | nil => by_cases own : f.id = id <;> simp [replace,own]
  | cons old rest ih =>
    rw [replace]
    by_cases same : old.id = f.id
    · by_cases own : f.id = id <;> simp [same,own]
    · rw [if_neg same,List.find?_cons,List.find?_cons,ih]
      by_cases own : f.id = id
      · subst own
        simp [beq_eq_false_iff_ne.mpr same]
      · simp [own]

theorem register_find (r : Registry) (f : Flow) (id : String) :
    (r.register f).find? id = if f.id = id then some f else r.find? id := replace_find f r.flows id

theorem cancelBy_find (r : Registry) (flow : Json) (id : String) : (r.cancelBy flow).1.find? id = r.find? id := by
  unfold cancelBy
  split
  · rfl
  · unfold cancel
    split
    · dsimp only
      split <;> rfl
    · rfl
  · rfl

-- What is found can be cancelled.
theorem cancelBy_found {r : Registry} {id : String} (found : (r.find? id).isSome = true) : (r.cancelBy (.str id)).2 = .accepted := by
  rw [find?,List.isSome_find?] at found
  simp only [cancelBy,unlookable?,cancel,holds,found,if_true]

end Registry

namespace Desk

-- The runtime was given the flow at some time, and took it.
def Enrolled (d : Desk) (flow : String) : Prop :=
  match d.runtime with
  | .none => False
  | .registry r => (r.find? flow).isSome = true
  | .remote r => ∃ place, d.requested[place]? = some (false,.str flow) ∧ (r.registering place).took = true

-- The answer to the next flow.
def reception (d : Desk) : Reply :=
  match d.runtime with
  | .remote r => r.registering d.requests
  | _ => .accepted

-- Whether there is a runtime that takes the next flow.
def enrols (d : Desk) : Bool :=
  match d.runtime with
  | .none => false
  | _ => d.reception.took

-- The journal has every request.
def Counted (d : Desk) : Prop := d.requests = d.requested.length

-- What a call does to the runtime: it gives it a flow or none, and takes none away.
structure Engages (d after : Desk) (given : Option Flow) : Prop where
  absent : after.runtime = .none ↔ d.runtime = .none
  registry : ∀ r, d.runtime = .registry r → ∃ later, after.runtime = .registry later ∧
    ∀ id, later.find? id = (given.filter fun f => f.id == id).or (r.find? id)
  remote : ∀ r, d.runtime = .remote r → after.runtime = .remote r
  counted : d.Counted → after.Counted
  enrolled : d.Counted → ∀ flow, after.Enrolled flow ↔ d.Enrolled flow ∨ (d.enrols = true ∧ given.map Flow.id = some flow)

section
variable {d middle after : Desk} {given : Option Flow}

theorem Unasked.refl (d : Desk) : d.Unasked d := ⟨rfl,rfl,rfl⟩

theorem Unasked.trans (first : d.Unasked middle) (second : middle.Unasked after) : d.Unasked after :=
  ⟨second.runtime.trans first.runtime,second.requests.trans first.requests,second.requested.trans first.requested⟩

theorem Unasked.enrolled (unasked : d.Unasked after) (flow : String) : after.Enrolled flow ↔ d.Enrolled flow := by
  rw [Enrolled,Enrolled,unasked.runtime,unasked.requested]

theorem Unasked.enrols (unasked : d.Unasked after) : after.enrols = d.enrols := by
  rw [Desk.enrols,Desk.enrols,reception,reception,unasked.runtime,unasked.requests]

theorem Unasked.counted (unasked : d.Unasked after) : after.Counted ↔ d.Counted := by
  rw [Counted,Counted,unasked.requests,unasked.requested]

theorem Unasked.engages (unasked : d.Unasked after) : d.Engages after none := by
  refine ⟨?_,?_,fun r running => unasked.runtime.trans running,unasked.counted.mpr,?_⟩
  · rw [unasked.runtime]
  · exact fun r running => ⟨r,unasked.runtime.trans running,fun _ => rfl⟩
  · intro _ flow
    rw [unasked.enrolled]
    simp

theorem Unasked.before (unasked : d.Unasked middle) (engages : middle.Engages after given) : d.Engages after given := by
  refine ⟨?_,?_,?_,?_,?_⟩
  · rw [engages.absent,unasked.runtime]
  · exact fun r running => engages.registry r (unasked.runtime.trans running)
  · exact fun r running => engages.remote r (unasked.runtime.trans running)
  · exact fun counted => engages.counted (unasked.counted.mpr counted)
  · intro counted flow
    rw [engages.enrolled (unasked.counted.mpr counted),unasked.enrolled,unasked.enrols]

-- Where our own registry runs the flows it did so before.
theorem Engages.ran (engages : d.Engages after given) {later : Registry} (runs : after.runtime = .registry later) :
    ∃ r, d.runtime = .registry r ∧ ∀ id, later.find? id = (given.filter fun f => f.id == id).or (r.find? id) := by
  cases running : d.runtime with
  | none => cases (engages.absent.mpr running).symm.trans runs
  | registry r =>
    obtain ⟨next,same,finds⟩ := engages.registry r running
    cases same.symm.trans runs
    exact ⟨r,rfl,finds⟩
  | remote r => cases (engages.remote r running).symm.trans runs

theorem Engages.before (engages : d.Engages middle given) (unasked : middle.Unasked after) : d.Engages after given := by
  refine ⟨?_,?_,?_,?_,?_⟩
  · rw [unasked.runtime,engages.absent]
  · intro r running
    rw [unasked.runtime]
    exact engages.registry r running
  · exact fun r running => unasked.runtime.trans (engages.remote r running)
  · exact fun counted => unasked.counted.mpr (engages.counted counted)
  · intro counted flow
    rw [unasked.enrolled,engages.enrolled counted]

end

section
variable (d : Desk)

-- What is told and written is nothing to the runtime.

theorem log_unasked (e : Entry) : d.Unasked (d.log e) := (Noted.one d e).unasked

theorem tell_unasked (o : Order) (event : Event) : d.Unasked (d.tell o event) := by
  unfold tell
  split
  · exact .refl d
  · split
    · exact log_unasked d _
    · split
      · exact .refl d
      · exact log_unasked d _
      · refine ⟨rfl,rfl,?_⟩
        simp [requested,Happening.request?]

theorem announceAll_unasked (o : Order) (announcements : List Announcement) : d.Unasked (d.announceAll o announcements) := by
  induction announcements generalizing d with
  | nil => exact .refl d
  | cons announcement rest ih =>
    have first : d.Unasked (announce o d announcement) := by
      cases announcement with
      | entry e => exact log_unasked d e
      | notice event => exact tell_unasked d o event
    exact first.trans (ih (announce o d announcement))

theorem announceCreation_unasked (o : Order) : d.Unasked (d.announceCreation o) := by
  have told (e : Entry) (event : Event) : d.Unasked ((d.log e).tell o event) := (log_unasked d e).trans (tell_unasked _ o event)
  unfold announceCreation
  dsimp only
  split
  · exact (told _ _).trans (tell_unasked _ o _)
  · exact told _ _

theorem amend_unasked (id : Json) (decide : Option Order → Decision α) : d.Unasked (d.amend id decide).1 := by
  rcases amend_cases d id decide with ⟨fault,made⟩ | ⟨-,found,-,⟨answer,entries,-,made⟩ |
    ⟨o,answer,announcements,storage,-,-,⟨-,made⟩ | ⟨fault,-,made⟩⟩⟩
  · rw [made]
    exact .refl d
  · rw [made]
    exact Noted.unasked ⟨entries,rfl⟩
  · rw [made]
    have written : d.Unasked {d with storage} := ⟨rfl,rfl,rfl⟩
    exact written.trans (announceAll_unasked _ o announcements)
  · rw [made]
    exact ⟨rfl,rfl,rfl⟩

theorem answered_unasked (owner : Json) (reply : Reply) : d.Unasked (d.answered owner reply) := by
  unfold answered
  split
  · exact ⟨rfl,rfl,rfl⟩
  · exact .refl d

theorem nextId_unasked : d.Unasked d.nextId.2 := by
  unfold nextId
  split <;> exact ⟨rfl,rfl,rfl⟩

-- Requests.

-- A request to a runtime elsewhere, before its answer.
def asking (d : Desk) (cancel : Bool) (flow : Json) : Desk :=
  {d with requests := d.requests + 1,journal := d.journal ++ [.asked cancel flow]}

theorem asking_requested (cancel : Bool) (flow : Json) : (d.asking cancel flow).requested = d.requested ++ [(cancel,flow)] := by
  simp [asking,requested,Happening.request?]

variable {d} in
theorem asking_counted (counted : d.Counted) (cancel : Bool) (flow : Json) : (d.asking cancel flow).Counted := by
  rw [Counted,asking_requested,List.length_append]
  exact congrArg (· + 1) counted

-- The request that was made last is the one that is answered.
theorem asking_place (cancel : Bool) (flow : Json) (place : Nat) (request : Bool × Json) :
    (d.asking cancel flow).requested[place]? = some request ↔
      d.requested[place]? = some request ∨ (place = d.requested.length ∧ (cancel,flow) = request) := by
  rw [asking_requested]
  grind

variable {d} in
theorem register_remote {r : Remote} (running : d.runtime = .remote r) (owner : Json) (f : Flow) :
    d.register owner f = ((d.asking false (.str f.id)).answered owner (r.registering d.requests),r.registering d.requests) := by
  cases d
  cases running
  rfl

variable {d} in
theorem stop_remote {r : Remote} (running : d.runtime = .remote r) (owner flow : Json) :
    d.stop owner flow = ((d.asking true flow).answered owner (r.cancelling d.requests),r.cancelling d.requests) := by
  cases d
  cases running
  rfl

theorem register_reply (owner : Json) (f : Flow) : (d.register owner f).2 = d.reception := by
  unfold register reception
  cases d.runtime <;> rfl

theorem register_engages (owner : Json) (f : Flow) : d.Engages (d.register owner f).1 (some f) := by
  unfold register
  split
  · rename_i running
    refine ⟨Iff.rfl,?_,fun _ same => same,id,?_⟩
    · intro r other
      cases running.symm.trans other
    · intro _ flow
      simp [enrols,running]
  · rename_i r running
    have given : d.Engages {d with runtime := .registry (r.register f)} (some f) := by
      refine ⟨by simp [running],?_,?_,id,?_⟩
      · intro own same
        cases running.symm.trans same
        refine ⟨_,rfl,fun id => ?_⟩
        rw [Registry.register_find]
        by_cases own : f.id = id <;> simp [Option.filter,own]
      · intro own same
        cases running.symm.trans same
      · intro _ flow
        simp only [Enrolled,running,Registry.register_find,enrols,reception,Reply.took,Option.map_some,Option.some.injEq]
        by_cases own : f.id = flow <;> simp [own]
    exact given.before (log_unasked _ _)
  · rename_i r running
    have given : d.Engages (d.asking false (.str f.id)) (some f) := by
      refine ⟨Iff.rfl,?_,fun _ same => same,fun counted => asking_counted counted _ _,?_⟩
      · intro own same
        cases running.symm.trans same
      · intro counted flow
        have place : d.requests = d.requested.length := counted
        have asked : (d.asking false (.str f.id)).runtime = .remote r := running
        simp only [Enrolled,running,asked,asking_place,enrols,reception,place,Option.map_some,Option.some.injEq,Prod.mk.injEq,
          Json.str.injEq,true_and]
        constructor
        · rintro ⟨place,earlier | ⟨rfl,same⟩,took⟩
          · exact Or.inl ⟨place,earlier,took⟩
          · exact Or.inr ⟨took,same⟩
        · rintro (⟨place,earlier,took⟩ | ⟨took,same⟩)
          · exact ⟨place,Or.inl earlier,took⟩
          · exact ⟨_,Or.inr ⟨rfl,same⟩,took⟩
    exact given.before (answered_unasked _ _ _)

theorem stop_engages (owner flow : Json) : d.Engages (d.stop owner flow).1 none := by
  unfold stop
  split
  · exact (Unasked.refl d).engages
  · rename_i r running
    have stopped : d.Engages {d with runtime := .registry (r.cancelBy flow).1} none := by
      refine ⟨by simp [running],?_,?_,id,?_⟩
      · intro own same
        cases running.symm.trans same
        exact ⟨_,rfl,fun id => Registry.cancelBy_find r flow id⟩
      · intro own same
        cases running.symm.trans same
      · intro _ flow
        simp [Enrolled,running,Registry.cancelBy_find]
    dsimp only
    split
    · exact stopped.before (log_unasked _ _)
    · exact stopped
  · rename_i r running
    have asked : d.Engages (d.asking true flow) none := by
      refine ⟨Iff.rfl,?_,fun _ same => same,fun counted => asking_counted counted _ _,?_⟩
      · intro own same
        cases running.symm.trans same
      · intro _ own
        have asked : (d.asking true flow).runtime = .remote r := running
        simp [Enrolled,running,asked,asking_place]
    exact asked.before (answered_unasked _ _ _)

-- A cancelled order may have its flow stopped; the flow stays enrolled.
theorem stopFlow_engages (id : Json) (o : Order) : d.Engages (d.stopFlow id o).1 none := by
  have stopped := stop_engages d o.id o.flowId
  have flagged (after : Desk) (e : Entry) (message : String) : after.Unasked ((after.log e).flagError id message).1 :=
    (log_unasked after e).trans (amend_unasked _ id _)
  unfold stopFlow
  generalize d.stop o.id o.flowId = answered at stopped ⊢
  obtain ⟨after,reply⟩ := answered
  cases reply with
  | accepted => exact stopped
  | refused => exact stopped.before (flagged after _ _)
  | failed message forgets => exact stopped.before (flagged after _ _)

theorem cancel_engages (id : Json) : d.Engages (d.cancel id).1 none := by
  have moved : d.Unasked (d.move id (.into .cancelled)).1 := amend_unasked d id _
  unfold cancel
  generalize d.move id (.into .cancelled) = result at moved ⊢
  obtain ⟨after,answer⟩ := result
  match answer with
  | .error fault => exact moved.engages
  | .ok none => exact moved.engages
  | .ok (some o) =>
    dsimp only
    split
    · exact moved.engages
    · split
      · exact moved.before (stopFlow_engages after id o)
      · exact moved.engages

theorem moves_unasked (id : Json) (m : Move) : d.Unasked (d.moves id m).1 := amend_unasked d id (m.decide id d.clock)

theorem updateStatus_unasked (id status error : Json) (branch : Option String) :
    d.Unasked (d.updateStatus id status error branch).1 := by
  unfold updateStatus
  cases Status.ofJson? status with
  | none => exact log_unasked d _
  | some target =>
    dsimp only
    split
    · exact moves_unasked d id _
    · exact log_unasked d _

-- Of the calls for stored orders, only a cancellation speaks to the runtime.
theorem perform_unasked {call : Call} (kept : call.creates = false) (lasting : ∀ id, call ≠ .cancel id) :
    d.Unasked (d.perform call).1 := by
  cases call with
  | create kind params => cases kept
  | cancel id => exact absurd rfl (lasting id)
  | activate id => exact moves_unasked d (.str id) _
  | resume id => exact moves_unasked d (.str id) _
  | pause id => exact moves_unasked d (.str id) _
  | updateStatus id status error branch => exact updateStatus_unasked d (.str id) _ _ branch
  | recordExecution id => exact amend_unasked d (.str id) _
  | prepare id snapshot => exact amend_unasked d (.str id) _
  | get id | list f p | stats => exact .refl d

theorem perform_engages {call : Call} (kept : call.creates = false) : d.Engages (d.perform call).1 none := by
  by_cases cancels : ∃ id, call = .cancel id
  · obtain ⟨id,rfl⟩ := cancels
    exact cancel_engages d (.str id)
  · exact (perform_unasked d kept fun id asked => cancels ⟨id,asked⟩).engages

end
end Desk
end OrderDesk
