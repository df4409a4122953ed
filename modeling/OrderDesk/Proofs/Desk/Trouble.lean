import OrderDesk.Proofs.Desk.Visits

-- Desks whose store is out of order. A desk that cannot read or cannot write does nothing to an order but log.
-- A desk that only cannot delete or list goes on as one in order does, over a runtime that takes no orders
-- away.
namespace OrderDesk

-- A failure that takes an order with it does so only where orders can be deleted.
def Reply.tempered (keeps : Bool) : Reply → Reply
  | failed message forgets => failed message (forgets && !keeps)
  | reply => reply

def Remote.tempered (keeps : Bool) (r : Remote) : Remote :=
  ⟨fun n => (r.registering n).tempered keeps,fun n => (r.cancelling n).tempered keeps⟩

def Runtime.tempered (keeps : Bool) : Runtime → Runtime
  | remote r => remote (r.tempered keeps)
  | runtime => runtime

theorem Registry.cancelBy_tempered (r : Registry) (keeps : Bool) (id : Json) :
    (r.cancelBy id).2.tempered keeps = (r.cancelBy id).2 := by
  unfold cancelBy
  split
  · rfl
  · unfold cancel
    split <;> rfl
  · rfl

namespace Storage
variable {s written : Storage} {o : Order} {fault : Fault}

def mended (s : Storage) : Storage := {s with broken := []}

theorem get_works {id : Json} {found : Option Order} (got : s.get id = .ok found) : s.working .get = .ok () := by
  obtain ⟨_,works,-⟩ := bind_eq_ok.mp got
  exact works

theorem get_mended (works : s.working .get = .ok ()) (id : Json) : s.mended.get id = s.get id := by
  rw [get,get,works,working_whole rfl]
  rfl

theorem write_mended (made : s.write o = .ok written) : s.mended.write o = .ok written.mended := by
  obtain ⟨-,-,store,stored,rfl⟩ := write_parts.mp made
  exact write_parts.mpr ⟨working_whole rfl .set,printing_whole rfl o,store,stored,rfl⟩

-- What is written is committed where nothing is out of order.
theorem set_mended (made : s.write o = .ok written) : s.mended.set o = (written.mended,.ok ()) :=
  set_done.mpr ⟨write_mended made,commit_whole rfl⟩

theorem delete_mended (works : s.fault? .delete = none) (id : Json) : (s.mended.delete id).1 = (s.delete id).1.mended := by
  have removed : s.mended.remove id = (s.remove id).map fun gone => (gone.1.mended,gone.2) := by
    rw [remove,remove,working_whole rfl,working,works]
    show (s.store.delete id >>= fun gone => pure ({s.mended with store := gone.1},gone.2)) = _
    cases s.store.delete id <;> rfl
  rw [delete,delete,removed]
  cases s.remove id <;> rfl

theorem delete_broken (broken : s.fault? .delete = some fault) (id : Json) : (s.delete id).1 = s := by
  rw [delete,remove,working,broken]
  rfl

end Storage

namespace Desk
variable {d : Desk} {decide : Option Order → Decision α}

def mended (d : Desk) : Desk := {d with storage := d.storage.mended}

-- Orders stay where they cannot be deleted.
def keeps (d : Desk) : Bool := (d.storage.fault? .delete).isSome

-- The desk with its store in order, and what the store cannot do taken over by the runtime.
def calmed (d : Desk) : Desk := {d with storage := d.storage.mended,runtime := d.runtime.tempered d.keeps}

theorem written_calmed {storage : Storage} (same : storage.broken = d.storage.broken) :
    {d.calmed with storage := storage.mended} = calmed {d with storage} := by
  simp only [calmed,keeps,Storage.fault?,same]

-- What is told and logged does not depend on the store or the runtime.

theorem log_calmed (d : Desk) (e : Entry) : d.calmed.log e = (d.log e).calmed := rfl

theorem logAll_calmed (d : Desk) (entries : List Entry) : d.calmed.logAll entries = (d.logAll entries).calmed := by
  induction entries generalizing d with
  | nil => rfl
  | cons e rest ih => exact ih (d.log e)

theorem tell_calmed (d : Desk) (o : Order) (event : Event) : d.calmed.tell o event = (d.tell o event).calmed := by
  unfold tell
  dsimp only [calmed]
  split
  · rfl
  · split
    · rfl
    · split <;> rfl

theorem announceAll_calmed (d : Desk) (o : Order) (announcements : List Announcement) :
    d.calmed.announceAll o announcements = (d.announceAll o announcements).calmed := by
  induction announcements generalizing d with
  | nil => rfl
  | cons announcement rest ih =>
    cases announcement with
    | entry e => exact ih (d.log e)
    | notice event =>
      have told := ih (d.tell o event)
      rw [← tell_calmed] at told
      exact told

theorem announceCreation_calmed (d : Desk) (o : Order) : d.calmed.announceCreation o = (d.announceCreation o).calmed := by
  unfold announceCreation
  simp only [log_calmed,tell_calmed]
  split <;> rfl

-- One read and one write.

-- A decision that is written is announced where the write can be committed.
theorem amend_stored {id : Json} {found : Option Order} {o : Order} {answer : α} {announcements : List Announcement}
    {storage : Storage} (key : id.isKey = true) (got : d.storage.get id = .ok found)
    (decided : decide found = .store o answer announcements) (written : d.storage.write o = .ok storage) :
    d.calmed.amend id decide = ((announceAll {d with storage} o announcements).calmed,.ok answer) := by
  have read : d.calmed.storage.get id = .ok found := (Storage.get_mended (Storage.get_works got) id).trans got
  have stored : d.calmed.storage.set o = (storage.mended,.ok ()) := Storage.set_mended written
  have same := congrArg (announceAll · o announcements) (written_calmed (Storage.write_same written))
  simp only [amend,key,Bool.not_true,Bool.false_eq_true,if_false,read,decided,stored]
  exact Prod.ext (same.trans (announceAll_calmed _ o announcements)) rfl

theorem amend_kept {id : Json} {found : Option Order} {answer : α} {entries : List Entry} (key : id.isKey = true)
    (got : d.storage.get id = .ok found) (decided : decide found = .keep answer entries) :
    d.calmed.amend id decide = ((d.logAll entries).calmed,.ok answer) := by
  have read : d.calmed.storage.get id = .ok found := (Storage.get_mended (Storage.get_works got) id).trans got
  simp only [amend,key,Bool.not_true,Bool.false_eq_true,if_false,read,decided,logAll_calmed]

-- All that one decision can come to. The row of an order may be written and not committed.
theorem amend_cases (d : Desk) (id : Json) (decide : Option Order → Decision α) :
    (∃ fault, d.amend id decide = (d,.error fault)) ∨
    id.isKey = true ∧ ∃ found, d.storage.get id = .ok found ∧
      ((∃ answer entries, decide found = .keep answer entries ∧ d.amend id decide = (d.logAll entries,.ok answer)) ∨
      ∃ o answer announcements storage, decide found = .store o answer announcements ∧ d.storage.write o = .ok storage ∧
        ((storage.commit = .ok () ∧ d.amend id decide = (announceAll {d with storage} o announcements,.ok answer)) ∨
          ∃ fault, storage.commit = .error fault ∧ d.amend id decide = ({d with storage},.error fault))) := by
  unfold amend
  by_cases key : id.isKey = true
  · simp only [key,Bool.not_true,Bool.false_eq_true,if_false,true_and]
    cases d.storage.get id with
    | error fault => exact Or.inl ⟨fault,rfl⟩
    | ok found =>
      dsimp only
      cases decided : decide found with
      | fail fault => exact Or.inl ⟨fault,rfl⟩
      | keep answer entries => exact Or.inr ⟨found,rfl,Or.inl ⟨answer,entries,decided,rfl⟩⟩
      | store o answer announcements =>
        dsimp only
        rcases Storage.set_cases d.storage o with ⟨fault,-,made⟩ | ⟨storage,written,made⟩
        · rw [made]
          exact Or.inl ⟨fault,rfl⟩
        · rw [made]
          refine Or.inr ⟨found,rfl,Or.inr ⟨o,answer,announcements,storage,decided,written,?_⟩⟩
          cases commits : storage.commit with
          | ok done => exact Or.inl ⟨rfl,rfl⟩
          | error fault => exact Or.inr ⟨fault,rfl,rfl⟩
  · exact Or.inl ⟨_,by simp [key]; rfl⟩

-- What is answered is answered so with everything in order.
theorem amend_calmed {id : Json} {answer : α} (answered : (d.amend id decide).2 = .ok answer) :
    d.calmed.amend id decide = ((d.amend id decide).1.calmed,.ok answer) := by
  rcases amend_cases d id decide with ⟨fault,made⟩ | ⟨key,found,got,⟨own,entries,decided,made⟩ |
    ⟨o,own,announcements,storage,decided,written,⟨-,made⟩ | ⟨fault,-,made⟩⟩⟩
  · rw [made] at answered
    cases answered
  · rw [made] at answered ⊢
    cases answered
    exact amend_kept key got decided
  · rw [made] at answered ⊢
    cases answered
    exact amend_stored key got decided written
  · rw [made] at answered
    cases answered

theorem amend_broken (d : Desk) (id : Json) (decide : Option Order → Decision α) :
    (d.amend id decide).1.storage.broken = d.storage.broken := by
  rcases amend_cases d id decide with ⟨fault,made⟩ | ⟨-,found,-,⟨answer,entries,-,made⟩ |
    ⟨o,answer,announcements,storage,-,written,⟨-,made⟩ | ⟨fault,-,made⟩⟩⟩
  · rw [made]
  · rw [made,(logAll_alike d _).storage]
  · rw [made,(announceAll_alike _ _ _).storage]
    exact Storage.write_same written
  · rw [made]
    exact Storage.write_same written

-- The runtime.

theorem answered_calmed (d : Desk) (owner : Json) (reply : Reply) :
    d.calmed.answered owner (reply.tempered d.keeps) = (d.answered owner reply).calmed := by
  cases reply with
  | accepted => rfl
  | refused => rfl
  | failed message forgets =>
    cases forgets with
    | false => rfl
    | true =>
      cases works : d.storage.fault? .delete with
      | some fault =>
        have kept : d.keeps = true := by rw [keeps,works]; rfl
        simp only [answered,Reply.tempered,kept,Bool.not_true,Bool.and_false,Storage.delete_broken works]
      | none =>
        have gives : d.keeps = false := by rw [keeps,works]; rfl
        have deleted : (d.calmed.storage.delete owner).1 = _ := Storage.delete_mended works owner
        simp only [answered,Reply.tempered,gives,Bool.not_false,Bool.and_true,deleted]
        exact written_calmed (Storage.delete_same d.storage owner)

theorem answered_broken (d : Desk) (owner : Json) (reply : Reply) :
    (d.answered owner reply).storage.broken = d.storage.broken := by
  unfold answered
  split
  · exact Storage.delete_same d.storage owner
  · rfl

theorem stop_calmed (d : Desk) (owner flowId : Json) :
    d.calmed.stop owner flowId = ((d.stop owner flowId).1.calmed,(d.stop owner flowId).2.tempered d.keeps) := by
  unfold stop
  cases running : d.runtime with
  | none => simp [calmed,running,Runtime.tempered,Reply.tempered]
  | registry r =>
    have same := r.cancelBy_tempered d.keeps flowId
    simp only [calmed,running,Runtime.tempered]
    cases reply : (r.cancelBy flowId).2 with
    | accepted => rfl
    | refused => rfl
    | failed message forgets =>
      rw [reply] at same
      dsimp only
      rw [same]
  | remote r =>
    have asked := answered_calmed {d with requests := d.requests + 1,journal := d.journal ++ [.asked true flowId]} owner
      (r.cancelling d.requests)
    simp only [calmed,running,Runtime.tempered] at asked ⊢
    exact Prod.ext asked rfl

theorem stop_broken (d : Desk) (owner flowId : Json) : (d.stop owner flowId).1.storage.broken = d.storage.broken := by
  unfold stop
  split
  · rfl
  · dsimp only
    split <;> rfl
  · exact answered_broken _ _ _

theorem register_calmed (d : Desk) (owner : Json) (f : Flow) :
    d.calmed.register owner f = ((d.register owner f).1.calmed,(d.register owner f).2.tempered d.keeps) := by
  unfold register
  cases running : d.runtime with
  | none => simp [calmed,running,Runtime.tempered,Reply.tempered]
  | registry r => simp only [calmed,running,Runtime.tempered]; rfl
  | remote r =>
    have asked := answered_calmed {d with requests := d.requests + 1,journal := d.journal ++ [.asked false (.str f.id)]} owner
      (r.registering d.requests)
    simp only [calmed,running,Runtime.tempered] at asked ⊢
    exact Prod.ext asked rfl

-- The calls, as far as they are answered.

theorem move_calmed {id : Json} {m : Move} {answer : Option Order} (answered : (d.move id m).2 = .ok answer) :
    d.calmed.move id m = ((d.move id m).1.calmed,.ok answer) := amend_calmed answered

theorem registered_calmed (d : Desk) (o : Order) (f : Flow) :
    d.calmed.registered o f = ((d.registered o f).1.calmed,(d.registered o f).2) := by
  unfold registered
  rw [register_calmed]
  generalize d.register o.id f = answered
  obtain ⟨after,reply⟩ := answered
  cases reply <;> rfl

theorem registered_id (d : Desk) (o : Order) (f : Flow) : (d.registered o f).2.1.id = o.id := by
  unfold registered
  generalize d.register o.id f = answered
  obtain ⟨after,reply⟩ := answered
  cases reply <;> rfl

-- All that the acceptance of an order can come to. Its row may be written and not committed.
theorem accept_cases (d : Desk) (o : Order) (f : Flow) : (∃ fault, d.accept o f = ((d.registered o f).1,.error fault)) ∨
    ∃ final storage, final.id = o.id ∧ (d.registered o f).1.storage.write final = .ok storage ∧
      d.calmed.accept o f = ((announceCreation {(d.registered o f).1 with storage} final).calmed,.ok ⟨final,f⟩) ∧
      ((storage.commit = .ok () ∧
        d.accept o f = (announceCreation {(d.registered o f).1 with storage} final,.ok ⟨final,f⟩)) ∨
        ∃ fault, storage.commit = .error fault ∧ d.accept o f = ({(d.registered o f).1 with storage},.error fault)) := by
  have named := registered_id d o f
  unfold accept
  rw [registered_calmed]
  generalize d.registered o f = made at named
  obtain ⟨after,kept,running⟩ := made
  dsimp only at named ⊢
  have shape : after.calmed.settings = after.settings := rfl
  rw [shape]
  have same : (if (running && after.settings.autoActivate) = true then {kept with status := .active} else kept).id = o.id := by
    rw [← named]
    split <;> rfl
  generalize (if (running && after.settings.autoActivate) = true then {kept with status := .active} else kept) = final at same
  rcases Storage.set_cases after.storage final with ⟨fault,-,set⟩ | ⟨storage,written,set⟩
  · rw [set]
    exact Or.inl ⟨fault,rfl⟩
  · have stored : after.calmed.storage.set final = (storage.mended,.ok ()) := Storage.set_mended written
    have rewritten := congrArg (announceCreation · final) (written_calmed (Storage.write_same written))
    rw [set,stored]
    refine Or.inr ⟨final,storage,same,written,Prod.ext (rewritten.trans (announceCreation_calmed _ final)) rfl,?_⟩
    cases commits : storage.commit with
    | ok done => exact Or.inl ⟨rfl,rfl⟩
    | error fault => exact Or.inr ⟨fault,rfl,rfl⟩

theorem nextId_calmed (d : Desk) : d.calmed.nextId = (d.nextId.1,d.nextId.2.calmed) := by
  unfold nextId
  dsimp only [calmed]
  split <;> rfl

end Desk
end OrderDesk
