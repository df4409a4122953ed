import OrderDesk.Proofs.Desk.Lockstep
import OrderDesk.Proofs.Desk.Reopening

-- Who is told, and how it ends, is nothing to the desk. Two desks that differ in their alarms alone store the
-- same orders, ask the runtime the same and answer every call alike, at a store in order or not.
namespace OrderDesk
namespace Desk

-- Desks that nothing but what was told tells apart.
structure Muted (a b : Desk) : Prop where
  alike : a.Alike b
  unasked : a.Unasked b

section
variable {a b x y : Desk}

theorem Unasked.symm (unasked : a.Unasked b) : b.Unasked a :=
  ⟨unasked.runtime.symm,unasked.requests.symm,unasked.requested.symm⟩

theorem Unasked.follow (unasked : a.Unasked b) (first : a.Unasked x) (second : b.Unasked y) : x.Unasked y :=
  (first.symm.trans unasked).trans second

namespace Muted

theorem follow (muted : a.Muted b) (first : a.Muted x) (second : b.Muted y) : x.Muted y :=
  ⟨muted.alike.follow first.alike second.alike,muted.unasked.follow first.unasked second.unasked⟩

theorem storing (muted : a.Muted b) (storage : Storage) : Muted {a with storage} {b with storage} :=
  ⟨muted.alike.storing storage,⟨muted.unasked.runtime,muted.unasked.requests,muted.unasked.requested⟩⟩

theorem running (muted : a.Muted b) (runtime : Runtime) : Muted {a with runtime} {b with runtime} :=
  ⟨⟨muted.alike.settings,muted.alike.storage,muted.alike.clock,muted.alike.ids,muted.alike.made⟩,
    ⟨rfl,muted.unasked.requests,muted.unasked.requested⟩⟩

theorem asking (muted : a.Muted b) (cancel : Bool) (flow : Json) : (a.asking cancel flow).Muted (b.asking cancel flow) := by
  refine ⟨⟨muted.alike.settings,muted.alike.storage,muted.alike.clock,muted.alike.ids,muted.alike.made⟩,
    ⟨muted.unasked.runtime,congrArg (· + 1) muted.unasked.requests,?_⟩⟩
  rw [asking_requested,asking_requested,muted.unasked.requested]

theorem answered (muted : a.Muted b) (owner : Json) (reply : Reply) : (a.answered owner reply).Muted (b.answered owner reply) := by
  unfold Desk.answered
  rw [muted.alike.storage]
  split
  · exact muted.storing _
  · exact muted

theorem logAll (muted : a.Muted b) (first second : List Entry) : (a.logAll first).Muted (b.logAll second) :=
  muted.follow ⟨logAll_alike a first,Noted.unasked ⟨first,rfl⟩⟩ ⟨logAll_alike b second,Noted.unasked ⟨second,rfl⟩⟩

theorem logs (muted : a.Muted b) (first second : Entry) : (a.log first).Muted (b.log second) := muted.logAll [first] [second]

theorem register (muted : a.Muted b) (owner : Json) (f : Flow) : Both Muted (a.register owner f) (b.register owner f) := by
  have same := muted.unasked.runtime
  cases running : a.runtime with
  | none =>
    rw [running] at same
    simp only [Desk.register,running,same]
    exact ⟨muted,rfl⟩
  | registry r =>
    rw [running] at same
    simp only [Desk.register,running,same]
    exact ⟨(muted.running _).logs _ _,rfl⟩
  | remote r =>
    rw [running] at same
    have reply : r.registering b.requests = r.registering a.requests := congrArg r.registering muted.unasked.requests
    rw [register_remote running,register_remote same,reply]
    exact ⟨(muted.asking false (.str f.id)).answered owner _,rfl⟩

theorem stop (muted : a.Muted b) (owner flow : Json) : Both Muted (a.stop owner flow) (b.stop owner flow) := by
  have same := muted.unasked.runtime
  cases running : a.runtime with
  | none =>
    rw [running] at same
    simp only [Desk.stop,running,same]
    exact ⟨muted,rfl⟩
  | registry r =>
    rw [running] at same
    simp only [Desk.stop,running,same]
    cases (r.cancelBy flow).2 with
    | accepted => exact ⟨(muted.running _).logs _ _,rfl⟩
    | _ => exact ⟨muted.running _,rfl⟩
  | remote r =>
    rw [running] at same
    have reply : r.cancelling b.requests = r.cancelling a.requests := congrArg r.cancelling muted.unasked.requests
    rw [stop_remote running,stop_remote same,reply]
    exact ⟨(muted.asking true flow).answered owner _,rfl⟩

-- Even a cancelled order is the same at both, so any decision is.
theorem amend (muted : a.Muted b) (id : Json) (decide : Option Order → Decision α) :
    Both Muted (a.amend id decide) (b.amend id decide) := by
  obtain ⟨desks,answer⟩ := muted.alike.amend id decide
  exact ⟨⟨desks,muted.unasked.follow (amend_unasked a id decide) (amend_unasked b id decide)⟩,answer⟩

theorem flagError (muted : a.Muted b) (id : Json) (message : String) :
    Both Muted (a.flagError id message) (b.flagError id message) := by
  unfold Desk.flagError
  rw [muted.alike.clock]
  exact muted.amend id _

theorem stopFlow (muted : a.Muted b) (id : Json) (o : Order) : Both Muted (a.stopFlow id o) (b.stopFlow id o) := by
  obtain ⟨d,e,reply,first,second,stopped⟩ := (muted.stop o.id o.flowId).parts
  unfold Desk.stopFlow
  rw [first,second]
  cases reply with
  | accepted => exact ⟨stopped,rfl⟩
  | refused => exact ((stopped.logs _ _).flagError id _).map (Except.map fun _ => true)
  | failed message forgets => exact ((stopped.logs _ _).flagError id _).map (Except.map fun _ => true)

theorem steps : Steps Muted := by
  refine ⟨fun muted => muted.alike.clock,fun muted => muted.alike.settings,logAll,?_,?_,fun muted id f => muted.register (.str id) f,
    ?_,?_⟩
  · intro a b muted o event
    exact muted.follow ⟨tell_alike a o event,tell_unasked a o event⟩ ⟨tell_alike b o event,tell_unasked b o event⟩
  · intro a b muted
    obtain ⟨id,next⟩ := muted.alike.nextId
    exact ⟨⟨next,muted.unasked.follow (nextId_unasked a) (nextId_unasked b)⟩,id⟩
  · intro a b muted id
    rw [muted.alike.storage]
    cases a.storage.get (.str id) with
    | error fault => exact Or.inl ⟨fault,rfl,rfl⟩
    | ok found => exact Or.inr (Or.inl ⟨found,rfl,rfl⟩)
  · intro a b muted o
    rw [muted.alike.storage]
    exact ⟨_,_,_,rfl,rfl,muted.storing _⟩

-- The order is cancelled and announced before the runtime is asked to stop its flow.
theorem cancel (muted : a.Muted b) (id : String) : Both Muted (a.cancel (.str id)) (b.cancel (.str id)) := by
  obtain ⟨d,e,answer,first,second,moved⟩ := (steps.move muted id (.into .cancelled)).parts
  unfold Desk.cancel
  rw [first,second]
  match answer with
  | .error fault => exact ⟨moved,rfl⟩
  | .ok none => exact ⟨moved,rfl⟩
  | .ok (some o) =>
    dsimp only
    rw [moved.unasked.runtime]
    split
    · exact ⟨moved,rfl⟩
    · split
      · exact moved.stopFlow (.str id) o
      · exact ⟨moved,rfl⟩

theorem lockstep : Lockstep Muted id := by
  refine ⟨steps,cancel,?_,?_,?_,?_,?_⟩
  · intro a b muted own
    simp only [Desk.get,muted.alike.storage]
  · intro a b muted f p
    simp only [Desk.list,listing,muted.alike.storage]
  · intro a b muted
    simp only [Desk.stats,muted.alike.storage]
  · intro a b muted t
    refine ⟨⟨muted.alike.settings,?_,rfl,muted.alike.ids,muted.alike.made⟩,
      ⟨muted.unasked.runtime,muted.unasked.requests,muted.unasked.requested⟩⟩
    simp only [Desk.during,hampered,muted.alike.storage]
  · intro a b muted
    exact ⟨muted.alike.mended,⟨muted.unasked.runtime,muted.unasked.requests,muted.unasked.requested⟩⟩

end Muted
end

def alarmed (d : Desk) (alarm : Alarm) : Desk := {d with alarm}

-- One session under two alarms, seen by everybody but those who are told.
structure Deaf (d : Desk) (x y : Alarm) (trials : List Trial) : Prop where
  -- At every place the same orders are stored, the runtime is the same and was asked the same,
  storage : ∀ earlier later, trials = earlier ++ later →
    ((d.alarmed y).endureAll earlier).storage = ((d.alarmed x).endureAll earlier).storage
  runtime : ∀ earlier later, trials = earlier ++ later →
    ((d.alarmed y).endureAll earlier).runtime = ((d.alarmed x).endureAll earlier).runtime
  requested : ∀ earlier later, trials = earlier ++ later →
    ((d.alarmed y).endureAll earlier).requested = ((d.alarmed x).endureAll earlier).requested
  -- and the next call has the same answer or fault.
  answers : ∀ earlier t later, trials = earlier ++ t :: later →
    (((d.alarmed y).endureAll earlier).endure t).2 = (((d.alarmed x).endureAll earlier).endure t).2

theorem trials_deaf (d : Desk) (x y : Alarm) (trials : List Trial) : d.Deaf x y trials := by
  have start : (d.alarmed x).Muted (d.alarmed y) := ⟨⟨rfl,rfl,rfl,rfl,rfl⟩,⟨rfl,rfl,rfl⟩⟩
  have muted (earlier : List Trial) := Muted.lockstep.endureAll start earlier
  refine ⟨?_,?_,?_,?_⟩
  · exact fun earlier _ _ => (muted earlier).alike.storage
  · exact fun earlier _ _ => (muted earlier).unasked.runtime
  · exact fun earlier _ _ => (muted earlier).unasked.requested
  · exact fun earlier t _ _ => (Muted.lockstep.endure (muted earlier) t).2

end Desk
end OrderDesk
