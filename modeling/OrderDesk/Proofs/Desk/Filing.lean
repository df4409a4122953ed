import OrderDesk.Proofs.Desk.Repeat
import OrderDesk.Proofs.Desk.Trial
import OrderDesk.Proofs.Desk.Upkeep
import OrderDesk.Proofs.Store.Shelf

-- What a call writes. A call that names an order sets it, possibly more than once, and a runtime may delete it;
-- nothing else is written. So the sequence of the store stays, or it is the sequence with the order put in its
-- place, or the one without the order.
namespace OrderDesk

-- What becomes of a sequence by the writes at one id, and whether there were any.
inductive Filed (b : Backend) (id : String) (orders : List Order) : Bool → List Order → Prop where
  | kept : Filed b id orders false orders
  | placed {old o : Order} (held : orders.find? (Store.hasId (.str id)) = some old) (lasts : old.Lasts o) :
      Filed b id orders true (b.place o orders)
  | gone : Filed b id orders true (Store.without id orders)

namespace Filed
variable {b : Backend} {id : String} {orders after : List Order} {wrote : Bool} {old o : Order}

-- What is read at the id is set over what was read there before.
theorem again (filed : Filed b id orders wrote after) (found : after.find? (Store.hasId (.str id)) = some old)
    (lasts : old.Lasts o) : Filed b id orders true (b.place o after) := by
  have named : o.id = .str id := lasts.id.trans (Store.found_id found)
  cases filed with
  | kept => exact .placed found lasts
  | @placed first p held earlier =>
    have own : p.id = .str id := earlier.id.trans (Store.found_id held)
    rw [Backend.place_find own] at found
    cases found
    rw [Backend.place_over named own]
    exact .placed held (earlier.trans lasts)
  | gone =>
    rw [Store.without_find] at found
    cases found

-- The order that is found after the writes is the one that was found before them.
theorem lasts (filed : Filed b id orders wrote after) (held : orders.find? (Store.hasId (.str id)) = some old)
    (present : after.find? (Store.hasId (.str id)) = some o) : old.Lasts o := by
  cases filed with
  | kept =>
    cases held.symm.trans present
    exact .refl _
  | @placed first p found lasts =>
    cases held.symm.trans found
    have own : p.id = .str id := lasts.id.trans (Store.found_id held)
    rw [Backend.place_find own] at present
    cases present
    exact lasts
  | gone =>
    rw [Store.without_find] at present
    cases present

theorem others (filed : Filed b id orders wrote after) : Store.without id after = Store.without id orders := by
  cases filed with
  | kept => rfl
  | @placed first p held earlier =>
    have own : p.id = .str id := earlier.id.trans (Store.found_id held)
    exact Backend.place_without own b orders
  | gone => exact Store.without_again id orders

end Filed

-- The writes at one id, one after the other. What is set is set over an order that was read.
inductive Storage.Writes (id : String) (s : Storage) : Bool → Storage → Prop where
  | nothing : Writes id s false s
  | set {wrote : Bool} {t u : Storage} {old o : Order} (before : Writes id s wrote t) (held : t.get (.str id) = .ok (some old))
      (redrafts : old.Redrafts o) (written : t.write o = .ok u) : Writes id s true u
  | delete {wrote found : Bool} {t u : Storage} (before : Writes id s wrote t) (deleted : t.remove (.str id) = .ok (u,found)) :
      Writes id s true u

-- Orders that have a state besides their status.
def Order.stateful (o : Order) : Bool := o.trailing.isSome || o.schedule.isSome

-- Whether an answer tells that the order was written, by the order before.
def Response.writes (before : Option Order) : Response → Bool
  | done (.ok answer) => answer
  | prepared (.ok (some _)) => before.any Order.stateful
  | _ => false

-- Drafts of an order.

section
variable {now : Timestamp} {o after : Order}

theorem Move.redrafts {m : Move} (text : m.error = .null ∨ ∃ s, m.error = .str s) (now : Timestamp) (o : Order) :
    o.Redrafts (m.apply now o) :=
  ⟨apply_lasts m now o,fun _ sound => apply_sound sound text⟩

theorem Order.flagged_redrafts (o : Order) (message : String) (now : Timestamp) :
    o.Redrafts {o with error := .str message,updatedAt := now} :=
  ⟨⟨rfl,rfl,rfl,rfl,rfl,rfl⟩,fun _ sound => sound.flagged message now⟩

theorem Execution.Takes.redrafts {before later : Schedule} {last : Bool} (takes : Takes now o after before later last) :
    o.Redrafts after := ⟨takes.lasts,fun _ => takes.sound⟩

theorem Tick.Sees.redrafts {snapshot merged : Snapshot} {trailing : Option Trailing} {ended : Bool}
    (sees : Sees snapshot now o after merged trailing ended) : o.Redrafts after := ⟨sees.lasts,fun _ => sees.sound⟩

-- A look at the market is written if and only if the order has a state.
theorem Tick.decide_writes {id : Json} {snapshot merged : Snapshot}
    (answered : (decide id snapshot now (some o)).answer? = some (some merged)) :
    (∃ entries, decide id snapshot now (some o) = .keep (some merged) entries ∧ o.stateful = false) ∨
      ∃ after announcements, decide id snapshot now (some o) = .store after (some merged) announcements ∧ o.stateful = true := by
  by_cases watched : o.status = .active ∨ o.status = .triggered
  · have looked : decide id snapshot now (some o) = observed id snapshot now o := by rw [decide,if_pos watched]
    rw [looked] at answered ⊢
    obtain ⟨seen,found,higher,ends,observes,compared,expires,same⟩ := observed_parts answered
    cases same
    rw [observed_made id observes compared expires]
    have state : ((written seen ends now).trailing.isSome || (written seen ends now).schedule.isSome) = o.stateful := by
      have kept := Order.observe_kept observes
      obtain ⟨trailing,rfl,-⟩ := Order.observe_record observes
      cases ends <;> exact congrArg (· || o.schedule.isSome) kept
    rw [state]
    cases stateful : o.stateful with
    | false => exact Or.inl ⟨_,if_neg Bool.false_ne_true,rfl⟩
    | true => exact Or.inr ⟨_,_,if_pos rfl,rfl⟩
  · rw [decide,if_neg watched] at answered
    cases answered

-- An order that is read from its row has the creation time of the order that was written.
theorem Order.Lasts.given {b : Backend} (lasts : o.Lasts after) (legible : b = .table → o.createdAt.Legible) :
    o.Lasts (b.gives after) := by
  cases b with
  | memory => exact lasts
  | table =>
    have created : after.createdAt.told = o.createdAt := by rw [lasts.createdAt,Timestamp.told_legible (legible rfl)]
    exact ⟨lasts.id,lasts.params,lasts.flowId,created,lasts.trailing,Option.isSome_map.trans lasts.schedule⟩

end

namespace Storage
variable {s t : Storage} {id : String} {o : Order} {wrote : Bool} {orders : List Order}

theorem get_store {found : Option Order} (got : s.get (.str id) = .ok found) : s.store.get (.str id) = .ok found := by
  obtain ⟨_,-,read⟩ := bind_eq_ok.mp got
  exact read

theorem write_store (made : s.write o = .ok t) : s.store.set o = .ok t.store := by
  obtain ⟨-,-,store,written,rfl⟩ := write_parts.mp made
  exact written

theorem remove_store {owner : Json} {found : Bool} (made : s.remove owner = .ok (t,found)) :
    s.store.delete owner = .ok (t.store,found) := by
  obtain ⟨_,-,rest⟩ := bind_eq_ok.mp made
  obtain ⟨⟨store,gone⟩,deleted,same⟩ := bind_eq_ok.mp rest
  cases same
  exact deleted

-- What was read can be set again, with the creation time that it had.
theorem get_fits {old : Order} (got : s.get (.str id) = .ok (some old)) :
    old.id = .str id ∧ (s.store.backend = .table → old.Sound id ∧ old.createdAt.Legible) := by
  have held := Store.get_held (get_store got)
  cases backend : s.store with
  | memory stored =>
    rw [backend] at held
    exact ⟨held,fun table => by cases table⟩
  | table rows =>
    rw [backend] at held
    exact ⟨held.1.id,fun _ => ⟨held.1,held.2.createdAt⟩⟩

namespace Writes

theorem unwritten (writes : Writes id s false t) : t = s := by
  cases writes
  rfl

theorem broken (writes : Writes id s wrote t) : t.broken = s.broken := by
  induction writes with
  | nothing => rfl
  | set before held redrafts written ih => exact (write_same written).trans ih
  | delete before deleted ih => exact (remove_same deleted).trans ih

-- A store as its writes leave it.
structure Leaves (s t : Store) (id : String) (orders : List Order) (wrote : Bool) (after : List Order) : Prop where
  filed : Filed s.backend id orders wrote after
  shelved : t.Shelved after
  backend : t.backend = s.backend
  dated : s.Dated → t.Dated

theorem leaves (writes : Writes id s wrote t) (shelved : s.store.Shelved orders) :
    ∃ after, Leaves s.store t.store id orders wrote after := by
  induction writes with
  | nothing => exact ⟨orders,.kept,shelved,rfl,fun dated => dated⟩
  | @set wrote t u old o before held redrafts written ih =>
    obtain ⟨after,filed,shelvedThere,backend,dated⟩ := ih
    obtain ⟨named,fits⟩ := get_fits held
    have found : after.find? (Store.hasId (.str id)) = some old := by
      rw [← shelvedThere.finds,Store.get_finds (get_store held)]
    have own : o.id = .str id := redrafts.lasts.id.trans named
    have lasts : old.Lasts (s.store.backend.gives o) := by
      rw [← backend]
      exact redrafts.lasts.given fun table => (fits table).2
    obtain ⟨placed,same⟩ := shelvedThere.set own (fun table => redrafts.sound id (fits table).1) (write_store written)
    rw [backend] at placed same
    refine ⟨_,filed.again found lasts,placed,same,fun early => ?_⟩
    have legible (table : t.store.backend = .table) : o.Sound id ∧ o.createdAt.Legible :=
      ⟨redrafts.sound id (fits table).1,redrafts.lasts.createdAt ▸ (fits table).2⟩
    exact (dated early).set legible (write_store written)
  | @delete wrote found t u before deleted ih =>
    obtain ⟨after,filed,shelvedThere,backend,dated⟩ := ih
    obtain ⟨rest,same⟩ := shelvedThere.delete (remove_store deleted)
    rw [filed.others] at rest
    exact ⟨_,.gone,rest,same.trans backend,fun early => (dated early).delete (remove_store deleted)⟩

end Writes
end Storage

namespace Desk
open Storage
variable {d : Desk} {id : String} {s : Storage} {wrote : Bool}

-- What a call has written, and that it answers so: it writes where it tells so, and tells so where it writes, unless it fails for a
-- store that is out of order.
structure Files (s : Storage) (id : String) (result : Desk × Except Fault α) (wrote : Bool) (tells : Prop) : Prop where
  writes : Writes id s wrote result.1.storage
  told : tells → wrote = true
  tells : wrote = true → tells ∨ s.broken ≠ [] ∧ ∃ fault, result.2 = .error fault

theorem amend_files (decide : Option Order → Decision α) (tells : Except Fault α → Prop)
    (failed : ∀ fault, ¬ tells (.error fault))
    (kept : ∀ found answer entries, d.storage.get (.str id) = .ok found → decide found = .keep answer entries → ¬ tells (.ok answer))
    (stored : ∀ found o answer announcements, d.storage.get (.str id) = .ok found → decide found = .store o answer announcements →
      tells (.ok answer) ∧ ∃ old, found = some old ∧ old.Redrafts o) :
    ∃ wrote, Files d.storage id (d.amend (.str id) decide) wrote (tells (d.amend (.str id) decide).2) := by
  have still {result : Desk × Except Fault α} (same : result.1.storage = d.storage) (silent : ¬ tells result.2) :
      ∃ wrote, Files d.storage id result wrote (tells result.2) :=
    ⟨false,same ▸ .nothing,fun told => absurd told silent,nofun⟩
  rcases amend_cases d (.str id) decide with ⟨fault,made⟩ | ⟨-,found,read,⟨answer,entries,decided,made⟩ |
    ⟨o,answer,announcements,storage,decided,written,outcome⟩⟩
  · rw [made]
    exact still rfl (failed fault)
  · rw [made]
    exact still (logAll_alike d entries).storage (kept found answer entries read decided)
  · obtain ⟨told,old,rfl,redrafts⟩ := stored found o answer announcements read decided
    have writes : Writes id d.storage true storage := .set .nothing read redrafts written
    rcases outcome with ⟨-,made⟩ | ⟨fault,commit,made⟩
    · rw [made]
      refine ⟨true,?_,fun _ => rfl,fun _ => Or.inl told⟩
      rw [(announceAll_alike _ o announcements).storage]
      exact writes
    · rw [made]
      refine ⟨true,writes,fun _ => rfl,fun _ => Or.inr ⟨fun whole => ?_,fault,rfl⟩⟩
      rw [Storage.write_commit written,Storage.commit_whole whole] at commit
      cases commit

theorem move_files {m : Move} (text : m.error = .null ∨ ∃ s, m.error = .str s) (d : Desk) (id : String) :
    ∃ wrote, Files d.storage id (d.move (.str id) m) wrote (∃ o, (d.move (.str id) m).2 = .ok (some o)) := by
  refine amend_files (m.decide (.str id) d.clock) (fun answer => ∃ o, answer = .ok (some o)) (fun fault told => ?_) ?_ ?_
  · obtain ⟨o,same⟩ := told
    cases same
  · rintro found answer entries - decided ⟨o,same⟩
    cases same
    rcases m.decide_cases (.str id) d.clock found with ⟨_,made⟩ | ⟨_,_,_,made⟩ <;> cases made.symm.trans decided
  · rintro found o answer announcements - decided
    cases found with
    | none => cases decided
    | some old =>
      by_cases allowed : m.allows old.status = true
      · obtain ⟨_,made⟩ := Move.decide_allowed (.str id) d.clock allowed
        cases made.symm.trans decided
        exact ⟨⟨_,rfl⟩,old,rfl,Move.redrafts text d.clock old⟩
      · obtain ⟨_,made⟩ := Move.decide_blocked (.str id) d.clock allowed
        cases made.symm.trans decided

theorem moves_files {m : Move} (text : m.error = .null ∨ ∃ s, m.error = .str s) (d : Desk) (id : String) :
    ∃ wrote, Files d.storage id (d.moves (.str id) m) wrote ((d.moves (.str id) m).2 = .ok true) := by
  obtain ⟨wrote,writes,told,tells⟩ := move_files text d id
  have answer : (d.moves (.str id) m).2 = (d.move (.str id) m).2.map Option.isSome := rfl
  have same : (d.moves (.str id) m).2 = .ok true ↔ ∃ o, (d.move (.str id) m).2 = .ok (some o) := by
    rw [answer]
    match (d.move (.str id) m).2 with
    | .error fault | .ok none | .ok (some o) => simp [Except.map]
  refine ⟨wrote,writes,fun moved => told (same.mp moved),fun written => (tells written).imp same.mpr fun failed => ⟨failed.1,?_⟩⟩
  obtain ⟨-,fault,fails⟩ := failed
  exact ⟨fault,by rw [answer,fails]; rfl⟩

theorem updateStatus_files (d : Desk) (id status : String) (error branch : Option String) :
    ∃ wrote, Files d.storage id (d.updateStatus (.str id) (.str status) (.optStr error) branch) wrote
      ((d.updateStatus (.str id) (.str status) (.optStr error) branch).2 = .ok true) := by
  have ignored (e : Entry) : Files d.storage id (d.log e,Except.ok (ε:=Fault) false) false (Except.ok (ε:=Fault) false = .ok true) :=
    ⟨.nothing,nofun,nofun⟩
  unfold updateStatus
  cases Status.ofJson? (.str status) with
  | none => exact ⟨false,ignored _⟩
  | some target =>
    dsimp only
    split
    · exact moves_files (Json.optStr_text error) d id
    · exact ⟨false,ignored _⟩

theorem recordExecution_files (d : Desk) (id : String) :
    ∃ wrote, Files d.storage id (d.recordExecution (.str id)) wrote ((d.recordExecution (.str id)).2 = .ok true) := by
  refine amend_files (Execution.decide (.str id) d.clock) (· = .ok true) (by simp) ?_ ?_
  · rintro found answer entries - decided told
    cases told
    rcases Execution.decide_cases (.str id) d.clock found with ⟨_,made⟩ | ⟨_,made⟩ | ⟨_,_,_,_,_,_,-,-,made⟩ <;>
      cases made.symm.trans decided
  · rintro found o answer announcements - decided
    rcases Execution.decide_cases (.str id) d.clock found with ⟨_,made⟩ | ⟨_,made⟩ | ⟨old,after,_,_,_,_,held,takes,made⟩
    · cases made.symm.trans decided
    · cases made.symm.trans decided
    · cases made.symm.trans decided
      exact ⟨rfl,old,held,takes.redrafts⟩

theorem prepare_files (d : Desk) (id : String) (snapshot : Snapshot) :
    ∃ wrote, Files d.storage id (d.prepare (.str id) snapshot) wrote
      ((∃ merged, (d.prepare (.str id) snapshot).2 = .ok (some merged)) ∧ (d.stored id).any Order.stateful = true) := by
  have stored {found : Option Order} (read : d.storage.get (.str id) = .ok found) : d.stored id = found :=
    Store.get_finds (get_store read)
  refine amend_files (Tick.decide (.str id) snapshot d.clock)
    (fun answer => (∃ merged, answer = .ok (some merged)) ∧ (d.stored id).any Order.stateful = true) (by simp) ?_ ?_
  · rintro found answer entries read decided ⟨⟨merged,same⟩,state⟩
    cases same
    rw [stored read] at state
    obtain ⟨o,rfl,stateful⟩ := Option.any_eq_true _ _ |>.mp state
    have answered : (Tick.decide (.str id) snapshot d.clock (some o)).answer? = some (some merged) := by rw [decided]; rfl
    rcases Tick.decide_writes answered with ⟨_,-,stateless⟩ | ⟨_,_,made,-⟩
    · rw [stateless] at stateful
      cases stateful
    · cases made.symm.trans decided
  · intro found o answer announcements read decided
    rcases Tick.decide_cases (.str id) snapshot d.clock found with
      ⟨_,made⟩ | ⟨_,_,made⟩ | ⟨old,after,merged,trailing,ended,_,rfl,sees,made⟩
    · cases made.symm.trans decided
    · cases made.symm.trans decided
    · cases made.symm.trans decided
      refine ⟨⟨⟨merged,rfl⟩,?_⟩,old,rfl,sees.redrafts⟩
      have answered : (Tick.decide (.str id) snapshot d.clock (some old)).answer? = some (some merged) := by rw [decided]; rfl
      rw [stored read]
      rcases Tick.decide_writes answered with ⟨_,kept,-⟩ | ⟨_,_,-,stateful⟩
      · cases kept.symm.trans decided
      · exact stateful

-- What a runtime may delete while it answers.

theorem answered_deletes (d : Desk) (owner : Json) (reply : Reply) : (d.answered owner reply).storage = d.storage ∨
    ∃ found, d.storage.remove owner = .ok ((d.answered owner reply).storage,found) := by
  unfold answered
  split
  · unfold Storage.delete
    cases removed : d.storage.remove owner with
    | error fault => exact Or.inl rfl
    | ok gone => exact Or.inr ⟨gone.2,rfl⟩
  · exact Or.inl rfl

theorem stop_deletes (d : Desk) (owner flow : Json) : (d.stop owner flow).1.storage = d.storage ∨
    ∃ found, d.storage.remove owner = .ok ((d.stop owner flow).1.storage,found) := by
  unfold stop
  split
  · exact Or.inl rfl
  · dsimp only
    split <;> exact Or.inl rfl
  · exact answered_deletes (d.asking true flow) owner _

theorem registered_deletes (d : Desk) (o : Order) (f : Flow) : (d.registered o f).1.storage = d.storage ∨
    ∃ found, d.storage.remove o.id = .ok ((d.registered o f).1.storage,found) := by
  have offered : (d.register o.id f).1.storage = d.storage ∨
      ∃ found, d.storage.remove o.id = .ok ((d.register o.id f).1.storage,found) := by
    unfold register
    split
    · exact Or.inl rfl
    · exact Or.inl rfl
    · exact answered_deletes (d.asking false (.str f.id)) o.id _
  unfold registered
  generalize d.register o.id f = answered at offered ⊢
  obtain ⟨after,reply⟩ := answered
  cases reply <;> exact offered

-- A cancellation is written before the runtime is asked, and may be marked with an error after.

theorem flagError_writes {s : Storage} (before : Writes id s true d.storage) (message : String) :
    Writes id s true (d.flagError (.str id) message).1.storage := by
  unfold flagError
  rcases amend_cases d (.str id) _ with ⟨fault,made⟩ | ⟨-,found,read,⟨answer,entries,-,made⟩ |
    ⟨o,answer,announcements,storage,decided,written,outcome⟩⟩
  · rw [made]
    exact before
  · rw [made,(logAll_alike d entries).storage]
    exact before
  · cases found with
    | none => cases decided
    | some old =>
      cases decided
      have flagged : Writes id s true storage := .set before read (old.flagged_redrafts message d.clock) written
      rcases outcome with ⟨-,made⟩ | ⟨fault,-,made⟩
      · rw [made,(announceAll_alike _ _ _).storage]
        exact flagged
      · rw [made]
        exact flagged

theorem stopFlow_writes {o : Order} (named : o.id = .str id) (before : Writes id s true d.storage) :
    Writes id s true (d.stopFlow (.str id) o).1.storage := by
  have stopped : Writes id s true (d.stop o.id o.flowId).1.storage := by
    rcases stop_deletes d o.id o.flowId with same | ⟨found,deleted⟩
    · exact same ▸ before
    · rw [named] at deleted ⊢
      exact .delete before deleted
  have flagged (e : Entry) (message : String) :
      Writes id s true (((d.stop o.id o.flowId).1.log e).flagError (.str id) message).1.storage :=
    flagError_writes (d:=(d.stop o.id o.flowId).1.log e) stopped message
  unfold stopFlow
  dsimp only
  split
  · exact stopped
  · exact flagged _ _
  · exact flagged _ _

theorem cancel_files (d : Desk) (id : String) : ∃ wrote, Writes id d.storage wrote (d.cancel (.str id)).1.storage ∧
    ((d.cancel (.str id)).2 = .ok true → wrote = true) ∧ (wrote = true → (d.cancel (.str id)).2 ≠ .ok false) := by
  obtain ⟨wrote,writes,told,tells⟩ := move_files (m:=.into .cancelled) (Or.inl rfl) d id
  have named (o : Order) (moved : (d.move (.str id) (.into .cancelled)).2 = .ok (some o)) : o.id = .str id := by
    obtain ⟨found,read,answered⟩ := amend_reads moved
    obtain ⟨old,rfl,rfl⟩ := Move.decide_answer answered
    exact (Move.apply_id _ _ _).trans (get_fits read).1
  unfold cancel
  generalize d.move (.str id) (.into .cancelled) = result at writes told tells named ⊢
  obtain ⟨after,answer⟩ := result
  match answer with
  | .error fault =>
    refine ⟨wrote,writes,?_,?_⟩
    · rintro ⟨⟩
    · rintro - ⟨⟩
  | .ok none =>
    have unwritten : wrote ≠ true := fun written => by simpa using tells written
    refine ⟨wrote,writes,?_,fun written => absurd written unwritten⟩
    rintro ⟨⟩
  | .ok (some o) =>
    have written : wrote = true := told ⟨o,rfl⟩
    subst written
    refine ⟨true,?_,fun _ => rfl,fun _ => ?_⟩
    · dsimp only
      split
      · exact writes
      · split
        · exact stopFlow_writes (named o rfl) writes
        · exact writes
    · dsimp only
      split
      · simp
      · split
        · exact stopFlow_done after (.str id) o
        · simp

theorem writes_done (before : Option Order) (answer : Except Fault Bool) :
    (Response.done answer).writes before = true ↔ answer = .ok true := by
  match answer with
  | .error fault | .ok false | .ok true => simp [Response.writes]

theorem writes_prepared (before : Option Order) (answer : Except Fault (Option Snapshot)) :
    (Response.prepared answer).writes before = true ↔ (∃ merged, answer = .ok (some merged)) ∧ before.any Order.stateful = true := by
  match answer with
  | .error fault | .ok none | .ok (some merged) => simp [Response.writes]

-- What a call answers tells whether it wrote, but for one that fails at a store that is out of order, and for a cancellation that fails
-- once it is written.
theorem perform_files (d : Desk) {call : Call} (subject : call.subject? = some id) :
    ∃ wrote, Writes id d.storage wrote (d.perform call).1.storage ∧
      ((d.perform call).2.writes (d.stored id) = true → wrote = true) ∧
      (wrote = true → (d.perform call).2.writes (d.stored id) = true ∨ d.storage.broken ≠ [] ∨
        call = .cancel id ∧ ∃ fault, (d.cancel (.str id)).2 = .error fault) := by
  have told {α : Type} {result : Desk × Except Fault α} {response : Response} {wrote : Bool} {tells : Prop}
      (files : Files d.storage id result wrote tells) (same : response.writes (d.stored id) = true ↔ tells) :
      Writes id d.storage wrote result.1.storage ∧ (response.writes (d.stored id) = true → wrote = true) ∧
        (wrote = true → response.writes (d.stored id) = true ∨ d.storage.broken ≠ [] ∨
          call = .cancel id ∧ ∃ fault, (d.cancel (.str id)).2 = .error fault) :=
    ⟨files.writes,fun writes => files.told (same.mp writes),
      fun wrote => (files.tells wrote).imp same.mpr fun failed => Or.inl failed.1⟩
  cases call with
  | activate own =>
    cases subject
    obtain ⟨wrote,files⟩ := moves_files (m:=.into .active) (Or.inl rfl) d id
    have own := told files (writes_done (d.stored id) _)
    exact ⟨wrote,own⟩
  | resume own =>
    cases subject
    obtain ⟨wrote,files⟩ := moves_files (m:={Move.into .active with only := some [.paused]}) (Or.inl rfl) d id
    have own := told files (writes_done (d.stored id) _)
    exact ⟨wrote,own⟩
  | pause own =>
    cases subject
    obtain ⟨wrote,files⟩ := moves_files (m:=.into .paused) (Or.inl rfl) d id
    have own := told files (writes_done (d.stored id) _)
    exact ⟨wrote,own⟩
  | updateStatus own status error branch =>
    cases subject
    obtain ⟨wrote,files⟩ := updateStatus_files d id status error branch
    have own := told files (writes_done (d.stored id) _)
    exact ⟨wrote,own⟩
  | recordExecution own =>
    cases subject
    obtain ⟨wrote,files⟩ := recordExecution_files d id
    have own := told files (writes_done (d.stored id) _)
    exact ⟨wrote,own⟩
  | prepare own snapshot =>
    cases subject
    obtain ⟨wrote,files⟩ := prepare_files d id snapshot
    have own := told files (writes_prepared (d.stored id) _)
    exact ⟨wrote,own⟩
  | cancel own =>
    cases subject
    obtain ⟨wrote,writes,done,undone⟩ := cancel_files d id
    refine ⟨wrote,writes,fun written => done ((writes_done _ _).mp written),fun written => ?_⟩
    have answered := undone written
    cases answer : (d.cancel (.str id)).2 with
    | error fault => exact Or.inr (Or.inr ⟨rfl,fault,rfl⟩)
    | ok answered =>
      cases answered with
      | false => exact absurd answer (undone written)
      | true => exact Or.inl ((writes_done _ _).mpr answer)
  | create | get | list | stats => cases subject

theorem visit_files (d : Desk) {v : Visit} (subject : v.call.subject? = some id) :
    ∃ wrote, Writes id d.storage wrote (d.visit v).1.storage := by
  obtain ⟨wrote,writes,-⟩ := perform_files {d with clock := v.now} subject
  exact ⟨wrote,writes⟩

section
variable {v : Visit} {visits : List Visit}

-- At a desk that is ready no cancellation fails.
theorem visit_writes (ready : d.Ready (v :: visits)) (subject : v.call.subject? = some id) :
    Writes id d.storage ((d.visit v).2.writes (d.stored id)) (d.visit v).1.storage := by
  have present : Desk.backend {d with clock := v.now} |>.Keeps v.now := ready.clocks v List.mem_cons_self
  obtain ⟨wrote,writes,wrote_of,of_wrote⟩ := perform_files {d with clock := v.now} subject
  have same : wrote = (d.visit v).2.writes (d.stored id) := by
    rw [Bool.eq_iff_iff]
    refine ⟨fun written => ?_,wrote_of⟩
    rcases of_wrote written with told | broken | ⟨-,fault,failed⟩
    · exact told
    · exact absurd ready.working broken
    · obtain ⟨answer,answered⟩ := cancel_done (ready.timed v.now) present id
      cases failed.symm.trans answered
  exact same ▸ writes

end

end Desk

-- A store whose rows, if it has any, are dated.
structure Store.Orderly (s : Store) : Prop where
  shelved : ∃ orders, s.Shelved orders
  dated : s.Dated

theorem Store.empty_orderly (b : Backend) : (empty b).Orderly := by
  cases b with
  | memory => exact ⟨⟨[],rfl,List.nodup_nil⟩,trivial⟩
  | table => exact ⟨⟨[],rfl,List.nodup_nil⟩,fun r member => by cases member⟩

theorem Storage.Writes.orderly {id : String} {s t : Storage} {wrote : Bool} (writes : Writes id s wrote t)
    (orderly : s.store.Orderly) : t.store.Orderly := by
  obtain ⟨⟨orders,shelved⟩,dated⟩ := orderly
  obtain ⟨after,leaves⟩ := writes.leaves shelved
  exact ⟨⟨after,leaves.shelved⟩,leaves.dated dated⟩

namespace Desk
open Storage

section
variable {d : Desk} {v : Visit} {visits : List Visit}

theorem create_orderly (orderly : d.storage.store.Orderly) (present : d.backend.Keeps d.clock) (kind params : Json) :
    (d.create kind params).1.storage.store.Orderly := by
  rcases create_cases d kind params with ⟨fault,made⟩ | ⟨fault,made⟩ | ⟨o,f,e,drafts,made⟩
  · rw [made]
    exact orderly
  · rw [made,(nextId_same d).1]
    exact orderly
  · have storage : (d.nextId.2.log e).storage = d.storage := (nextId_same d).1
    have settings : (d.nextId.2.log e).settings = d.settings := nextId_settings d
    have clock : (d.nextId.2.log e).clock = d.clock := (nextId_same d).2
    have new := drafts.new.entered d.settings.autoActivate d.reception
    have writes : ∃ wrote, Writes d.nextId.1 d.storage wrote ((d.nextId.2.log e).registered o f).1.storage := by
      rcases registered_deletes (d.nextId.2.log e) o f with same | ⟨found,deleted⟩
      · rw [same,storage]
        exact ⟨false,.nothing⟩
      · rw [storage,drafts.new.id] at deleted
        exact ⟨true,.delete .nothing deleted⟩
    obtain ⟨wrote,writes⟩ := writes
    obtain ⟨orders,shelved⟩ := orderly.shelved
    obtain ⟨after,-,shelvedThere,backend,dated⟩ := writes.leaves shelved
    rw [made,accept_entered,settings,clock,(issued_unasked d e).reception]
    have orderlyThere : ((d.nextId.2.log e).registered o f).1.storage.store.Orderly := ⟨⟨after,shelvedThere⟩,dated orderly.dated⟩
    have stored : (((d.nextId.2.log e).registered o f).1.storage.set
        (o.entered d.settings.autoActivate d.clock d.reception)).1.store.Orderly := by
      rcases Storage.set_cases ((d.nextId.2.log e).registered o f).1.storage (o.entered d.settings.autoActivate d.clock d.reception) with
        ⟨fault,-,made⟩ | ⟨storage,written,made⟩
      · rw [made]
        exact orderlyThere
      rw [made]
      have legible (table : ((d.nextId.2.log e).registered o f).1.storage.store.backend = .table) :
          (o.entered d.settings.autoActivate d.clock d.reception).Sound d.nextId.1 ∧
            (o.entered d.settings.autoActivate d.clock d.reception).createdAt.Legible := by
        rw [new.createdAt]
        rw [Desk.backend,← backend,table] at present
        exact ⟨new.sound,present⟩
      exact ⟨⟨_,(shelvedThere.set new.id (fun table => (legible table).1) (write_store written)).1⟩,
        (dated orderly.dated).set legible (write_store written)⟩
    generalize ((d.nextId.2.log e).registered o f).1.storage.set (o.entered d.settings.autoActivate d.clock d.reception) = result
      at stored ⊢
    obtain ⟨storage,outcome⟩ := result
    cases outcome with
    | error fault => exact stored
    | ok done =>
      dsimp only
      rw [(announceCreation_alike _ _).storage]
      exact stored

theorem visit_orderly (ready : d.Ready (v :: visits)) (orderly : d.storage.store.Orderly) : (d.visit v).1.storage.store.Orderly := by
  cases subject : v.call.subject? with
  | some id =>
    obtain ⟨wrote,writes⟩ := visit_files d subject
    exact writes.orderly orderly
  | none =>
    rw [visit]
    cases asked : v.call with
    | create kind params => exact create_orderly (d:={d with clock := v.now}) orderly (ready.clocks v List.mem_cons_self) kind params
    | get | list | stats => exact orderly
    | _ =>
      rw [asked] at subject
      cases subject

theorem run_orderly {earlier later : List Visit} (ready : d.Ready (earlier ++ later)) (orderly : d.storage.store.Orderly) :
    (d.run earlier).storage.store.Orderly := by
  induction earlier generalizing d with
  | nil => exact orderly
  | cons v earlier ih => exact ih (visit_leaves ready).ready (visit_orderly ready orderly)

theorem Opened.orderly {earlier later : List Visit} (opened : d.Opened visits) (split : visits = earlier ++ later) :
    (d.run earlier).storage.store.Orderly := by
  subst split
  refine run_orderly (opened_ready opened) ?_
  rw [opened.empty]
  exact Store.empty_orderly d.backend

end

end Desk
end OrderDesk
