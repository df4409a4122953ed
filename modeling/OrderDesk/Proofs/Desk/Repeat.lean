import OrderDesk.Proofs.Desk.Transitions
import OrderDesk.Proofs.Store.Gist
import OrderDesk.Proofs.Trailing.Tick

-- A look at the market that is repeated at once finds everything as the first one left it: the same answer
-- comes back, the same record is written in the same place, and nothing is told. What a look adds to a snapshot
-- and to a record is little.
namespace OrderDesk

-- An order that is set once more stays where it is.
theorem Store.set_again {s after : Store} {id : String} {o : Order} (sound : o.Sound id) (kept : o.Moments s.backend.Keeps)
    (written : s.set o = .ok after) : after.set o = .ok after := by
  cases s with
  | memory orders =>
    rw [set,sound.id,usableId] at written
    cases written
    rw [set,sound.id,usableId,replace_again sound.id]
    rfl
  | table rows =>
    obtain ⟨r,made,named,-⟩ := Row.toOrder_written sound kept
    have sets (rows : List Row) : (table rows).set o = .ok (table (rows.filter (!rowHasId (some id) ·) ++ [r])) := by
      simp only [set,made,Except.map,named]
    rw [sets] at written
    cases written
    rw [sets,others_again named]

theorem Storage.set_again {s after : Storage} {id : String} {o : Order} (sound : o.Sound id)
    (kept : o.Moments s.store.backend.Keeps) (written : s.set o = (after,.ok ())) : after.set o = (after,.ok ()) := by
  obtain ⟨made,commit⟩ := set_done.mp written
  obtain ⟨-,-,store,stored,rfl⟩ := write_parts.mp made
  exact set_done.mpr ⟨write_again made rfl (write_backend made) (fun _ => rfl) (Store.set_again sound kept stored),commit⟩

namespace Trailing

-- A price that was followed is followed no further, also where the mark was rounded below it.
theorem raised_again {mark after : Json} {price : Number} (made : raised mark price = .ok after) : raised after price = .ok after := by
  rcases raised_cases made with rfl | ⟨x,converted,rfl⟩
  · exact made
  · simp only [raised,Json.countable?,Json.number?,converted,ite_self]

theorem follow_again {t next : Trailing} {terms : TrailingTerms} {snapshot : Snapshot} {fields : Fields}
    (followed : t.follow terms snapshot = .ok (next,fields)) : next.follow terms snapshot = .ok (next,fields) := by
  unfold follow at followed ⊢
  split at followed
  · cases followed
    rfl
  · obtain ⟨mark,made,rest⟩ := bind_eq_ok.mp followed
    split at rest
    · cases rest
    · rename_i high counted
      obtain ⟨shown,derives,same⟩ := bind_eq_ok.mp rest
      cases same
      simp only [raised_again made,bind_ok,counted,derives,pure_ok]

theorem follow_mark {t next : Trailing} {terms : TrailingTerms} {snapshot : Snapshot} {fields : Fields}
    (followed : t.follow terms snapshot = .ok (next,fields)) : next = t ∨ ∃ x, next.mark = .float x := by
  rcases follow_cases followed with same | ⟨price,-,made⟩
  · exact Or.inl same
  · rcases raised_cases made with same | ⟨x,-,same⟩
    · exact Or.inl (congrArg Trailing.mk same)
    · exact Or.inr ⟨x,same⟩

end Trailing

namespace Order
variable {o own after : Order} {snapshot merged mid : Snapshot} {now : Timestamp}

theorem withTrailing_again (trailed : o.withTrailing snapshot merged = .ok (own,mid)) : own.withTrailing snapshot merged = .ok (own,mid) := by
  have parts := trailed
  unfold withTrailing at parts
  split at parts
  · rename_i t terms held named
    obtain ⟨⟨next,fields⟩,followed,made⟩ := bind_eq_ok.mp parts
    cases made
    simp only [withTrailing,named,Trailing.follow_again followed,bind_ok,pure_ok]
  · cases parts
    exact trailed

theorem observe_again (seen : o.observe snapshot now = .ok (after,merged)) : after.observe snapshot now = .ok (after,merged) := by
  obtain ⟨⟨own,mid⟩,trailed,rest⟩ := bind_eq_ok.mp seen
  obtain ⟨written,scheduled,made⟩ := bind_eq_ok.mp rest
  cases made
  simp only [observe,withTrailing_again trailed,bind_ok,scheduled,pure_ok]

-- What is seen does not depend on whether the order has triggered.
theorem observe_triggered (later : Timestamp) (seen : o.observe snapshot now = .ok (o,merged)) :
    Order.observe {o.triggered later with updatedAt := later} snapshot now =
      .ok ({o.triggered later with updatedAt := later},merged) := by
  obtain ⟨⟨own,mid⟩,trailed,rest⟩ := bind_eq_ok.mp seen
  obtain ⟨written,scheduled,made⟩ := bind_eq_ok.mp rest
  obtain ⟨rfl,rfl⟩ := Prod.mk.inj (Except.ok.inj made)
  have trails : withTrailing {own.triggered later with updatedAt := later} snapshot snapshot =
      .ok ({own.triggered later with updatedAt := later},mid) := by
    unfold withTrailing at trailed ⊢
    simp only [triggered]
    split at trailed
    · rename_i t terms held named
      obtain ⟨⟨next,fields⟩,followed,result⟩ := bind_eq_ok.mp trailed
      obtain ⟨same,rfl⟩ := Prod.mk.inj (Except.ok.inj result)
      have still : some next = own.trailing := congrArg Order.trailing same
      simp only [followed,bind_ok,pure_ok,still]
    · cases trailed
      rfl
  have schedules : withSchedule {own.triggered later with updatedAt := later} now mid = .ok written := scheduled
  simp only [observe,trails,bind_ok,schedules,pure_ok]

end Order

namespace Tick
variable {id : Json} {o after : Order} {snapshot merged : Snapshot} {now : Timestamp} {answer : Option Snapshot}
  {announcements : List Announcement}

-- A mark that stays has not been raised, if it can be compared at all.
theorem rose_still {trailing : Option Trailing} {higher : Bool} (compared : rose trailing trailing = .ok higher) :
    rose trailing trailing = .ok false := by
  cases trailing with
  | none => rfl
  | some t =>
    obtain ⟨mark⟩ := t
    cases mark with
    | null | str | arr => rfl
    | bool | int | float => exact congrArg Except.ok (Number.gt_self _)
    | obj fields => cases compared

theorem rose_again {higher : Bool} (seen : o.observe snapshot now = .ok (after,merged))
    (compared : rose o.trailing after.trailing = .ok higher) : rose after.trailing after.trailing = .ok false := by
  obtain ⟨trailing,rfl,same | ⟨t,terms,next,fields,held,followed,same⟩⟩ := Order.observe_record seen
  · dsimp only at compared ⊢
    rw [← same] at compared
    exact rose_still compared
  · dsimp only at compared ⊢
    rcases Trailing.follow_mark followed with still | ⟨x,float⟩
    · rw [held,same,still] at compared
      rw [same,still]
      exact rose_still compared
    · rw [same,rose,float]
      exact congrArg Except.ok (Number.gt_self _)

-- The record of a look at the market.
def written (after : Order) (ended : Bool) (now : Timestamp) : Order :=
  if ended then {after.triggered now with updatedAt := now} else after

section
variable {higher ends : Bool} {seen : Order}

theorem observed_made (id : Json) (observes : o.observe snapshot now = .ok (seen,merged))
    (compared : rose o.trailing seen.trailing = .ok higher) (expires : expired seen now = .ok ends) :
    observed id snapshot now o =
      if (written seen ends now).trailing.isSome || (written seen ends now).schedule.isSome then
        .store (written seen ends now) (some merged) (followed id (written seen ends now) higher ++ ended id (written seen ends now) ends)
      else .keep (some merged) [] := by
  simp only [observed,observes,compared,expires,written]

theorem observed_parts (answered : (observed id snapshot now o).answer? = some answer) :
    ∃ seen merged higher ends, o.observe snapshot now = .ok (seen,merged) ∧ rose o.trailing seen.trailing = .ok higher ∧
      expired seen now = .ok ends ∧ answer = some merged := by
  unfold observed at answered
  split at answered
  · cases answered
  · rename_i seen merged observes
    split at answered
    · cases answered
    · cases answered
    · rename_i higher ends compared expires
      rw [Decision.answer_kept] at answered
      exact ⟨seen,merged,higher,ends,observes,compared,expires,(Option.some.inj answered).symm⟩

end

-- What is kept is not told.
theorem decide_quiet {found : Option Order} {entries : List Entry} (kept : decide id snapshot now found = .keep answer entries) :
    entries = [] := by
  unfold decide at kept
  split at kept
  · cases kept
    rfl
  · rename_i o
    split at kept
    · have answered : (observed id snapshot now o).answer? = some answer := by rw [kept,Decision.answer?]
      obtain ⟨seen,merged,higher,ends,observes,compared,expires,-⟩ := observed_parts answered
      rw [observed_made id observes compared expires] at kept
      split at kept
      · cases kept
      · cases kept
        rfl
    · cases kept
      rfl

-- Once the record is written it is seen as it is: an order that has triggered does not come to its end again.
theorem written_seen {higher ends : Bool} {seen : Order} (watched : o.status = .active ∨ o.status = .triggered)
    (observes : o.observe snapshot now = .ok (seen,merged)) (compared : rose o.trailing seen.trailing = .ok higher)
    (expires : expired seen now = .ok ends) : ((written seen ends now).status = .active ∨ (written seen ends now).status = .triggered) ∧
      (written seen ends now).observe snapshot now = .ok (written seen ends now,merged) ∧
      rose (written seen ends now).trailing (written seen ends now).trailing = .ok false ∧
      expired (written seen ends now) now = .ok false := by
  have still := rose_again observes compared
  have again := Order.observe_again observes
  cases ends with
  | true => exact ⟨Or.inr rfl,Order.observe_triggered now again,still,rfl⟩
  | false =>
    have same : seen.status = o.status := by
      obtain ⟨trailing,rfl,-⟩ := Order.observe_record observes
      rfl
    exact ⟨by rw [written,if_neg Bool.false_ne_true,same]; exact watched,again,still,expires⟩

-- The record that was written is written again, with the same answer, and nothing is told.
theorem decide_again (stored : decide id snapshot now (some o) = .store after answer announcements) :
    decide id snapshot now (some after) = .store after answer [] := by
  by_cases watched : o.status = .active ∨ o.status = .triggered
  · rw [decide,if_pos watched] at stored
    have answered : (observed id snapshot now o).answer? = some answer := by rw [stored,Decision.answer?]
    obtain ⟨seen,merged,higher,ends,observes,compared,expires,rfl⟩ := observed_parts answered
    rw [observed_made id observes compared expires] at stored
    split at stored
    · rename_i state
      cases stored
      obtain ⟨watches,looked,still,past⟩ := written_seen watched observes compared expires
      rw [decide,if_pos watches,observed_made id looked still past]
      exact if_pos state
    · cases stored
  · rw [decide,if_neg watched] at stored
    cases stored

end Tick

-- Only two fields of a snapshot are written over.
def Snapshot.Frames (snapshot merged : Snapshot) : Prop :=
  ∀ key, key ≠ "trailing" → key ≠ "schedule" → merged.get? key = snapshot.get? key

theorem Fields.get_other {key name : String} (differs : key ≠ name) (v : Json) (fields : Fields) :
    get? key (set name v fields) = get? key fields := by
  induction fields with
  | nil => simp [set,get?,differs.symm]
  | cons field rest ih =>
    obtain ⟨own,old⟩ := field
    rw [set]
    split
    · rename_i same
      rw [beq_iff_eq] at same
      simp [get?,same,differs.symm]
    · rw [Validation.get_cons,Validation.get_cons,ih]

theorem Order.observe_frames {o after : Order} {snapshot merged : Snapshot} {now : Timestamp}
    (seen : o.observe snapshot now = .ok (after,merged)) : snapshot.Frames merged := by
  obtain ⟨⟨own,mid⟩,trailed,rest⟩ := bind_eq_ok.mp seen
  obtain ⟨written,scheduled,made⟩ := bind_eq_ok.mp rest
  cases made
  intro key trailing schedule
  have first : mid.get? key = snapshot.get? key := by
    unfold withTrailing at trailed
    split at trailed
    · obtain ⟨⟨next,fields⟩,-,made⟩ := bind_eq_ok.mp trailed
      cases made
      split
      · rfl
      · exact Fields.get_other trailing _ _
    · cases trailed
      rfl
  have second : merged.get? key = mid.get? key := by
    unfold withSchedule at scheduled
    split at scheduled
    · rename_i s held
      split at scheduled
      · cases derives : s.derived after.params.terms now with
        | error fault =>
          rw [derives] at scheduled
          cases scheduled
        | ok fields =>
          rw [derives] at scheduled
          cases scheduled
          exact Fields.get_other schedule _ _
      · cases scheduled
        rfl
    · cases scheduled
      rfl
  exact second.trans first

-- A record that was looked at: another mark, and where the schedule of an active order has ended, what says that it triggered.
def Order.Looked (now : Timestamp) (o after : Order) : Prop :=
  ∃ trailing, trailing.isSome = o.trailing.isSome ∧ (after = {o with trailing} ∨ (o.status = .active ∧ o.exhausted now = .ok true ∧
    after = {o with trailing,status := .triggered,triggeredAt := some now,updatedAt := now}))

theorem Order.Looked.refl (now : Timestamp) (o : Order) : o.Looked now o := ⟨o.trailing,rfl,Or.inl rfl⟩

theorem Tick.expired_exhausted {o : Order} {now : Timestamp} (expires : expired o now = .ok true) :
    o.status = .active ∧ o.exhausted now = .ok true := by
  unfold expired at expires
  split at expires
  · rename_i active
    split at expires
    · rename_i s held
      obtain ⟨-,schedule⟩ := Order.schedule_some held
      refine ⟨active,?_⟩
      rw [Order.exhausted,schedule]
      exact expires
    · cases expires
  · cases expires

theorem Tick.Sees.looked {snapshot merged : Snapshot} {now : Timestamp} {o after : Order} {trailing : Option Trailing} {ended : Bool}
    (sees : Sees snapshot now o after merged trailing ended) : o.Looked now after := by
  refine ⟨trailing,sees.kept,?_⟩
  cases ended with
  | false => exact Or.inl sees.record
  | true =>
    obtain ⟨active,exhausted⟩ := Tick.expired_exhausted sees.ends
    exact Or.inr ⟨active,exhausted,sees.record⟩

namespace Desk

section
variable {d : Desk} {v : Visit} {visits : List Visit} {id : String} {snapshot : Snapshot} {answer : Option Snapshot}

-- Where nothing more is to come.
theorem Ready.last (ready : d.Ready visits) : d.Ready [] :=
  ⟨ready.working,ready.store,by simp,ready.orders,fun k bound => absurd bound (by simp [creations]),
    fun j k bound => absurd bound (by simp [creations])⟩

theorem prepare_again (ready : d.Ready visits) (present : d.backend.Keeps d.clock) (answered : (d.prepare (.str id) snapshot).2 = .ok answer) :
    (d.prepare (.str id) snapshot).1.prepare (.str id) snapshot = ((d.prepare (.str id) snapshot).1,.ok answer) := by
  rcases Tick.decide_cases (.str id) snapshot d.clock (d.stored id) with
    ⟨fault,decided⟩ | ⟨own,entries,decided⟩ | ⟨o,after,merged,trailing,ended,announcements,held,sees,decided⟩
  · rw [prepare,amend_fail ready decided] at answered
    cases answered
  · have quiet := Tick.decide_quiet decided
    subst quiet
    have kept : d.prepare (.str id) snapshot = (d,.ok own) := amend_keep ready decided
    rw [kept] at answered ⊢
    rw [kept]
    exact congrArg (Prod.mk d) answered
  · obtain ⟨sound,moments⟩ := ready.orders id o held
    have soundAfter := sees.sound sound
    have momentsAfter := sees.moments moments present
    obtain ⟨storage,written,broken,becomes⟩ := storage_set ready soundAfter momentsAfter
    have first : d.prepare (.str id) snapshot = (announceAll {d with storage} after announcements,.ok (some merged)) :=
      amend_written ready decided written
    have told : Desk.Alike {d with storage} (announceAll {d with storage} after announcements) := announceAll_alike _ _ _
    have changes : d.Changes {d with storage} id (some after) := ⟨rfl,rfl,rfl,rfl,broken,becomes⟩
    rw [first] at answered ⊢
    cases answered
    generalize announceAll {d with storage} after announcements = next at told ⊢
    have readyNext : next.Ready [] := by
      refine (changes.alike told).ready ready.last ?_ fun k bound => absurd bound (by simp [creations])
      intro p same
      cases same
      exact ⟨soundAfter,momentsAfter⟩
    have decidedNext : Tick.decide (.str id) snapshot next.clock (next.stored id) = .store after (some merged) [] := by
      rw [told.clock,(changes.alike told).here]
      rw [held] at decided
      exact Tick.decide_again decided
    have writtenNext : next.storage.set after = (next.storage,.ok ()) := by
      rw [told.storage]
      exact Storage.set_again soundAfter momentsAfter written
    exact amend_written readyNext decidedNext writtenNext

theorem visit_again (ready : d.Ready (v :: visits)) (asked : v.call = .prepare id snapshot)
    (answered : (d.visit v).2 = .prepared (.ok answer)) : (d.visit v).1.visit v = ((d.visit v).1,.prepared (.ok answer)) := by
  have timed := ready.timed v.now
  have present : d.backend.Keeps v.now := ready.clocks v List.mem_cons_self
  obtain ⟨after,given,found,made,changes,-⟩ := prepare_effect id snapshot timed present
  rw [visit_prepare asked made] at answered ⊢
  cases answered
  have again := prepare_again timed present (by rw [made])
  rw [made] at again
  have clock : {after with clock := v.now} = after := congrArg (fun now => {after with clock := now}) changes.clock.symm
  refine visit_prepare asked ?_
  rw [clock]
  exact again

theorem visit_frames {merged : Snapshot} (ready : d.Ready (v :: visits)) (asked : v.call = .prepare id snapshot)
    (answered : (d.visit v).2 = .prepared (.ok (some merged))) : snapshot.Frames merged := by
  have timed := ready.timed v.now
  have prepared : (Desk.prepare {d with clock := v.now} (.str id) snapshot).2 = .ok (some merged) := by
    rw [visit,asked] at answered
    exact Response.prepared.inj answered
  cases held : d.stored id with
  | none =>
    have decided := amend_answer timed prepared
    rw [show Desk.stored {d with clock := v.now} id = none from held] at decided
    cases decided
  | some o =>
    obtain ⟨after,observes⟩ := prepare_observes timed held prepared
    exact Order.observe_frames observes

theorem visit_looked {o : Order} (ready : d.Ready (v :: visits)) (asked : v.call = .prepare id snapshot) (held : d.stored id = some o) :
    ∃ after, (d.visit v).1.stored id = some after ∧ o.Looked v.now after := by
  have subject : v.call.subject? = some id := by rw [asked]; rfl
  have effect := visit_named ready subject
  rw [held,asked] at effect
  generalize (d.visit v).1.stored id = found at effect ⊢
  generalize (d.visit v).2 = response at effect
  cases effect with
  | kept idle => exact ⟨o,rfl,Order.Looked.refl v.now o⟩
  | observed asked sees => exact ⟨_,rfl,sees.looked⟩
  | moved asked | flagged asked | forgotten asked | executed asked => cases asked

end

-- What a look at the market does, in every session.
structure Repeats (d : Desk) (visits : List Visit) : Prop where
  -- The whole desk stays as it is, with its store and all that was told.
  again : ∀ earlier v later, visits = earlier ++ v :: later → ∀ id snapshot, v.call = .prepare id snapshot → ∀ answer,
    ((d.run earlier).visit v).2 = .prepared (.ok answer) →
    (d.run (earlier ++ [v])).visit v = (d.run (earlier ++ [v]),.prepared (.ok answer))
  frames : ∀ earlier v later, visits = earlier ++ v :: later → ∀ id snapshot, v.call = .prepare id snapshot → ∀ merged,
    ((d.run earlier).visit v).2 = .prepared (.ok (some merged)) → snapshot.Frames merged
  -- Whether the call has an answer or not.
  looked : ∀ earlier v later, visits = earlier ++ v :: later → ∀ id snapshot, v.call = .prepare id snapshot → ∀ o,
    (d.run earlier).stored id = some o → ∃ after, (d.run (earlier ++ [v])).stored id = some after ∧ o.Looked v.now after
  others : ∀ earlier v later, visits = earlier ++ v :: later → ∀ id snapshot, v.call = .prepare id snapshot → ∀ other,
    other ≠ id ∨ (d.run earlier).stored other = none → (d.run (earlier ++ [v])).stored other = (d.run earlier).stored other

theorem run_repeats {d : Desk} {visits : List Visit} (opened : d.Opened visits) : d.Repeats visits := by
  constructor
  · intro earlier v later split id snapshot asked answer answered
    rw [run_snoc]
    exact visit_again (opened.ready_at split) asked answered
  · intro earlier v later split id snapshot asked merged answered
    exact visit_frames (opened.ready_at split) asked answered
  · intro earlier v later split id snapshot asked o held
    rw [run_snoc]
    exact visit_looked (opened.ready_at split) asked held
  · intro earlier v later split id snapshot asked other apart
    have ready := opened.ready_at split
    have subject : v.call.subject? = some id := by rw [asked]; rfl
    rw [run_snoc]
    by_cases named : other = id
    · subst named
      rcases apart with differs | none
      · exact absurd rfl differs
      · have effect := visit_named ready subject
        rw [none] at effect
        rw [effect.absent,none]
    · exact visit_other ready subject named

-- The mark follows a price, a schedule comes to its end, and each look is repeated.
def doubled : List Visit := [
  ⟨.origin,.create (.str "trailing-stop") (.obj [("token",.str "ETH"),("trailPercent",.int 10),("initialPrice",.int 95)])⟩,
  ⟨.origin,.prepare "order_1" [("price",.int 100)]⟩,
  ⟨.origin,.prepare "order_1" [("price",.int 100)]⟩,
  ⟨.origin,.create (.str "dca") (.obj [("token",.str "ETH"),("sellToken",.str "USDC"),("amountPerExecution",.int 25),
    ("interval",.str "daily"),("endDate",.str "1970-01-01T00:00:00Z")])⟩,
  ⟨.epoch,.prepare "order_2" []⟩,
  ⟨.epoch,.prepare "order_2" []⟩]

theorem doubled_repeats : (vacant .memory).Opened doubled ∧ (vacant .memory).Repeats doubled :=
  ⟨vacant_opened fun _ _ => trivial,run_repeats (vacant_opened fun _ _ => trivial)⟩

end Desk
end OrderDesk
