import OrderDesk.Proofs.Desk.Engagement
import OrderDesk.Proofs.Desk.Listing
import OrderDesk.Proofs.Desk.Lockstep
import OrderDesk.Proofs.Store.Gist

-- What is left of a runtime that does not cancel: the error of the cancelled order and the moment it was noted.
-- Two sessions whose runtimes take the same flows tell the same, answer the same and store the same but for
-- this.
namespace OrderDesk

-- Listings and counts look at nothing that an error changes.

theorem Filter.matches_gist (f : Filter) (o : Order) : f.matches? o.gist = f.matches? o := by
  simp [matches?,wantsToken]

theorem Filter.select_gist (f : Filter) (orders : List Order) :
    (f.select orders).map (List.map Order.gist) = f.select (orders.map Order.gist) := by
  induction orders with
  | nil => rfl
  | cons o rest ih =>
    rw [List.map_cons,select,select,f.matches_gist,← ih]
    cases f.matches? o with
    | error fault => rfl
    | ok wanted => cases f.select rest <;> cases wanted <;> rfl

theorem allComparable_gist (orders : List Order) : allComparable (orders.map Order.gist) = allComparable orders := by
  cases orders with
  | nil => rfl
  | cons o rest => simp [allComparable,List.all_map,Function.comp_def]

theorem newestFirst_gist (orders : List Order) :
    (newestFirst orders).map (List.map Order.gist) = newestFirst (orders.map Order.gist) := by
  have sorted : (orders.mergeSort fun a b => decide (b.createdAt.instant ≤ a.createdAt.instant)).map Order.gist =
      (orders.map Order.gist).mergeSort fun a b => decide (b.createdAt.instant ≤ a.createdAt.instant) :=
    List.map_mergeSort fun a _ b _ => by rw [Order.gist_createdAt,Order.gist_createdAt]
  rw [newestFirst,newestFirst,allComparable_gist,← sorted]
  split <;> rfl

theorem Page.cut_map (p : Page) (f : α → β) (listed : List α) : (p.cut listed).map f = p.cut (listed.map f) := by
  unfold cut
  split <;> simp [List.map_drop,List.map_take]

theorem Stats.ofOrders_gist (orders : List Order) : ofOrders (orders.map Order.gist) = ofOrders orders := by
  simp [ofOrders,count,List.countP_map,Function.comp_def]

-- An answer in the same way.
def Response.gist : Response → Response
  | found answer => found (answer.map (Option.map Order.gist))
  | listed answer => listed (answer.map (List.map Order.gist))
  | response => response

def Happening.telling? : Happening → Option (Message × List Delivery)
  | told m deliveries => some (m,deliveries)
  | _ => none

-- What there is of a desk beside its log and its runtime.
structure Front where
  settings : Settings
  alarm : Alarm
  clock : Timestamp
  ids : List String
  made : Nat
  notices : Nat
  stored : (List Order ⊕ List (Row × Except Fault Order)) × List (Access × Fault)
  tellings : List (Message × List Delivery)

namespace Desk

-- What was told, and where it went.
def tellings (d : Desk) : List (Message × List Delivery) := d.journal.filterMap Happening.telling?

def front (d : Desk) : Front := ⟨d.settings,d.alarm,d.clock,d.ids,d.made,d.notices,d.storage.gist,d.tellings⟩

-- The answers to the flows that are still to come.
def receives (d : Desk) (place : Nat) : Reply :=
  match d.runtime with
  | .remote r => r.registering (d.requests + place)
  | _ => .accepted

-- The runtime answers a cancellation or fails, and touches no order.
def Discreet (d : Desk) : Prop := ∀ r, d.runtime = .remote r → ∀ place message, r.cancelling place ≠ .failed message true

-- Desks that are one but for what their runtimes said to cancellations.
structure Abreast (a b : Desk) : Prop where
  front : b.front = a.front
  receives : ∀ place, b.receives place = a.receives place
  first : a.Discreet
  second : b.Discreet

theorem list_gist (d : Desk) (f : Filter) (p : Page) : (d.list f p).map (List.map Order.gist) =
    d.storage.list.map (List.map Order.gist) >>= fun listed => (f.select listed >>= newestFirst).map p.cut := by
  rw [list,listing]
  cases d.storage.list with
  | error fault => rfl
  | ok orders =>
    have selected := f.select_gist orders
    simp only [Except.map,bind_ok] at selected ⊢
    rw [← selected]
    cases f.select orders with
    | error fault => rfl
    | ok wanted =>
      have sorted := newestFirst_gist wanted
      simp only [Except.map,bind_ok] at sorted ⊢
      rw [← sorted]
      cases newestFirst wanted with
      | error fault => rfl
      | ok listed => exact congrArg Except.ok (p.cut_map Order.gist listed)

theorem stats_gist (d : Desk) : d.stats = (d.storage.list.map (List.map Order.gist)).map Stats.ofOrders := by
  rw [stats]
  cases d.storage.list with
  | error fault => rfl
  | ok orders => exact congrArg Except.ok (Stats.ofOrders_gist orders).symm

section
variable {a b d after : Desk}

theorem Unasked.receives (unasked : d.Unasked after) (place : Nat) : after.receives place = d.receives place := by
  rw [Desk.receives,Desk.receives,unasked.runtime,unasked.requests]

theorem Unasked.discreet (unasked : d.Unasked after) (discreet : d.Discreet) : after.Discreet := by
  rwa [Discreet,unasked.runtime]

theorem log_front (d : Desk) (e : Entry) : (d.log e).front = d.front := by
  simp [front,tellings,log,Happening.telling?]

theorem logAll_front (d : Desk) (entries : List Entry) : (d.logAll entries).front = d.front := by
  rw [logAll_journal]
  simp [front,tellings,List.filterMap_map,Function.comp_def,Happening.telling?]

theorem asking_front (d : Desk) (cancel : Bool) (flow : Json) : (d.asking cancel flow).front = d.front := by
  simp [front,tellings,asking,Happening.telling?]

-- Fronts that are the same stay the same.

theorem stored_front (same : b.front = a.front) {x y : Storage} (stored : y.gist = x.gist) :
    front {b with storage := y} = front {a with storage := x} := by
  have fields := same
  simp only [front,Front.mk.injEq] at fields ⊢
  obtain ⟨settings,alarm,clock,ids,made,notices,-,tellings⟩ := fields
  exact ⟨settings,alarm,clock,ids,made,notices,stored,tellings⟩

theorem tell_front (same : b.front = a.front) (o : Order) (event : Event) : (b.tell o event).front = (a.tell o event).front := by
  have alarm : b.alarm = a.alarm := congrArg Front.alarm same
  have notices : b.notices = a.notices := congrArg Front.notices same
  unfold tell
  rw [alarm,notices]
  dsimp only
  split
  · exact same
  · split
    · rw [log_front,log_front,same]
    · split
      · exact same
      · rw [log_front,log_front,same]
      · simp only [front,tellings,Front.mk.injEq,List.filterMap_append,true_and] at same ⊢
        obtain ⟨settings,-,clock,ids,made,-,stored,told⟩ := same
        exact ⟨settings,clock,ids,made,stored,congrArg (· ++ _) told⟩

theorem nextId_front (same : b.front = a.front) : b.nextId.2.front = a.nextId.2.front ∧ b.nextId.1 = a.nextId.1 := by
  have fields := same
  simp only [front,Front.mk.injEq] at fields
  obtain ⟨settings,alarm,clock,ids,made,notices,stored,told⟩ := fields
  unfold nextId
  rw [ids]
  split
  · simp only [front,Front.mk.injEq]
    exact ⟨⟨settings,alarm,clock,trivial,made,notices,stored,told⟩,trivial⟩
  · simp only [front,Front.mk.injEq,made]
    exact ⟨⟨settings,alarm,clock,trivial,trivial,notices,stored,told⟩,trivial⟩

end

namespace Abreast
variable {a b x y : Desk}

theorem clock (abreast : a.Abreast b) : b.clock = a.clock := congrArg Front.clock abreast.front

theorem settings (abreast : a.Abreast b) : b.settings = a.settings := congrArg Front.settings abreast.front

theorem stored (abreast : a.Abreast b) : b.storage.gist = a.storage.gist := congrArg Front.stored abreast.front

-- Nothing is asked of the runtimes.
theorem unasked (abreast : a.Abreast b) (here : a.Unasked x) (there : b.Unasked y) (front : y.front = x.front) : x.Abreast y := by
  refine ⟨front,?_,here.discreet abreast.first,there.discreet abreast.second⟩
  intro place
  rw [there.receives,here.receives,abreast.receives]

theorem storing (abreast : a.Abreast b) {s t : Storage} (same : t.gist = s.gist) :
    Abreast {a with storage := s} {b with storage := t} :=
  abreast.unasked ⟨rfl,rfl,rfl⟩ ⟨rfl,rfl,rfl⟩ (stored_front abreast.front same)

theorem answered (abreast : a.Abreast b) (id : String) (reply : Reply) :
    (a.answered (.str id) reply).Abreast (b.answered (.str id) reply) := by
  unfold Desk.answered
  split
  · exact abreast.storing (Storage.delete_gist abreast.stored id)
  · exact abreast

end Abreast

-- What was asked of the runtime, and nothing else that can be seen. The next flow has the answer after as many.
structure Asked (d after : Desk) (times : Nat) : Prop where
  front : after.front = d.front
  receives : ∀ place, after.receives place = d.receives (place + times)
  discreet : d.Discreet → after.Discreet

section
variable {a b d mid after : Desk} {times : Nat}

theorem Abreast.asked {x y : Desk} (abreast : a.Abreast b) (here : a.Asked x times) (there : b.Asked y times) : x.Abreast y := by
  refine ⟨?_,?_,here.discreet abreast.first,there.discreet abreast.second⟩
  · rw [there.front,here.front,abreast.front]
  · intro place
    rw [there.receives,here.receives,abreast.receives]

namespace Asked

theorem refl (d : Desk) : d.Asked d 0 := ⟨rfl,fun _ => rfl,fun discreet => discreet⟩

theorem next (asked : d.Asked mid times) (front : after.front = mid.front) (unasked : mid.Unasked after) : d.Asked after times := by
  refine ⟨front.trans asked.front,?_,fun discreet => unasked.discreet (asked.discreet discreet)⟩
  intro place
  rw [unasked.receives,asked.receives]

theorem log (asked : d.Asked mid times) (e : Entry) : d.Asked (mid.log e) times := asked.next (log_front mid e) (log_unasked mid e)

-- Where there is no runtime or one of our own, every answer is the same.
theorem here (front : after.front = d.front) (before : ∀ r, d.runtime ≠ .remote r) (own : ∀ r, after.runtime ≠ .remote r)
    (times : Nat) : d.Asked after times := by
  have accepts {d : Desk} (near : ∀ r, d.runtime ≠ .remote r) (place : Nat) : d.receives place = .accepted := by
    unfold Desk.receives
    split
    · exact absurd ‹_› (near _)
    · rfl
  refine ⟨front,?_,fun _ r running => absurd running (own r)⟩
  intro place
  rw [accepts own,accepts before]

theorem registry {r : Registry} (running : d.runtime = .registry r) (later : Registry) :
    d.Asked {d with runtime := .registry later} 1 := by
  have same : Desk.front {d with runtime := .registry later} = d.front := rfl
  refine .here same ?_ ?_ 1
  · simp [running]
  · simp

theorem asking {r : Remote} (running : d.runtime = .remote r) (cancel : Bool) (flow : Json) : d.Asked (d.asking cancel flow) 1 := by
  refine ⟨asking_front d cancel flow,?_,fun discreet => discreet⟩
  intro place
  have later : (d.asking cancel flow).runtime = .remote r := running
  have count : (d.asking cancel flow).requests + place = d.requests + (place + 1) := by
    simp only [Desk.asking]
    omega
  simp only [Desk.receives,later,running,count]

end Asked

theorem register_asks (d : Desk) (owner : Json) (f : Flow) :
    ∃ asked, d.Asked asked 1 ∧ d.register owner f = (asked.answered owner (d.receives 0),d.receives 0) := by
  cases running : d.runtime with
  | none =>
    have near : ∀ r, d.runtime ≠ .remote r := by simp [running]
    refine ⟨d,.here rfl near near 1,?_⟩
    simp only [register,Desk.receives,running,answered]
  | registry r =>
    let entry := (Entry.plain .debug runtimeLogger s!"Registered flow {f.id}").aboutFlow (.str f.id)
    refine ⟨_,(Asked.registry running (r.register f)).log entry,?_⟩
    simp only [register,Desk.receives,running]
    rfl
  | remote r =>
    refine ⟨d.asking false (.str f.id),.asking running false _,?_⟩
    simp only [register_remote running,Desk.receives,running,Nat.add_zero]

theorem answered_discreet {r : Remote} (discreet : d.Discreet) (running : d.runtime = .remote r) (after : Desk) (owner : Json)
    (place : Nat) : after.answered owner (r.cancelling place) = after := by
  unfold answered
  split
  · exact absurd ‹_› (discreet r running place _)
  · rfl

theorem stop_asks (discreet : d.Discreet) (owner flow : Json) (served : d.runtime ≠ .none) :
    d.Asked (d.stop owner flow).1 1 ∧ (d.stop owner flow).1.storage = d.storage := by
  cases running : d.runtime with
  | none => exact absurd running served
  | registry r =>
    have stopped := Asked.registry running (r.cancelBy flow).1
    simp only [stop,running]
    split
    · exact ⟨stopped.log _,rfl⟩
    · exact ⟨stopped,rfl⟩
  | remote r =>
    rw [stop_remote running,answered_discreet discreet running]
    exact ⟨.asking running true flow,rfl⟩

-- An order that can be marked with an error, after which the store is the same but for this.
def Markable (d : Desk) (id : String) : Prop := ∀ message later, ∃ found flagged, d.storage.get (.str id) = .ok (some found) ∧
  d.storage.set (found.flagged message later) = (flagged,.ok ()) ∧ flagged.gist = d.storage.gist

theorem flagError_front {id : String} (markable : d.Markable id) (message : String) :
    ∃ after, d.flagError (.str id) message = (after,.ok ()) ∧ after.front = d.front ∧ d.Unasked after := by
  obtain ⟨found,storage,got,made,same⟩ := markable message d.clock
  refine ⟨{d with storage},?_,stored_front rfl same,⟨rfl,rfl,rfl⟩⟩
  rw [Order.flagged] at made
  simp only [flagError,amend,Json.isKey,Bool.not_true,Bool.false_eq_true,if_false,got,made]
  rfl

theorem stopFlow_asks {id : String} {o : Order} (discreet : d.Discreet) (served : d.runtime ≠ .none) (markable : d.Markable id) :
    ∃ after, d.stopFlow (.str id) o = (after,.ok true) ∧ d.Asked after 1 := by
  obtain ⟨asked,same⟩ := stop_asks discreet o.id o.flowId served
  unfold stopFlow
  generalize d.stop o.id o.flowId = answered at asked same
  obtain ⟨mid,reply⟩ := answered
  have flags (e : Entry) (message : String) :
      ∃ after, (mid.log e).flagError (.str id) message = (after,.ok ()) ∧ d.Asked after 1 := by
    have marks : (mid.log e).Markable id := by
      have stored : (mid.log e).storage = d.storage := same
      rwa [Markable,stored]
    obtain ⟨after,flagged,front,unasked⟩ := flagError_front marks message
    exact ⟨after,flagged,(asked.log e).next front unasked⟩
  cases reply with
  | accepted => exact ⟨mid,rfl,asked⟩
  | refused =>
    obtain ⟨after,flagged,asked⟩ := flags _ "runtime cancel failed"
    refine ⟨after,?_,asked⟩
    dsimp only
    rw [flagged]
    rfl
  | failed message forgets =>
    obtain ⟨after,flagged,asked⟩ := flags _ s!"runtime cancel failed: {message}"
    refine ⟨after,?_,asked⟩
    dsimp only
    rw [flagged]
    rfl

-- Once the order is cancelled here, all that the runtime can do is to leave an error.
theorem cancel_asks {id : String} {o : Order} (discreet : d.Discreet) (moved : d.move (.str id) (.into .cancelled) = (mid,.ok (some o))) :
    ∃ after, d.cancel (.str id) = (after,.ok true) ∧ mid.Asked after (if o.flowId.truthy then 1 else 0) := by
  have unasked : d.Unasked mid := by
    have same := amend_unasked d (.str id) ((Move.into .cancelled).decide (.str id) d.clock)
    rwa [← move,moved] at same
  have discreet := unasked.discreet discreet
  have markable : mid.Markable id := by
    obtain ⟨old,announcements,storage,got,rfl,written,commits,made⟩ := move_writes (congrArg Prod.snd moved)
    have same : mid = announceAll {d with storage} _ announcements := (Prod.mk.inj (moved.symm.trans made)).1
    have stored : mid.storage = storage := by rw [same,(announceAll_alike _ _ _).storage]
    intro message later
    rw [stored]
    exact Storage.cancelled_again got (Storage.set_done.mpr ⟨written,commits⟩) message later
  by_cases served : mid.runtime = .none
  · have near : ∀ r, mid.runtime ≠ .remote r := by simp [served]
    refine ⟨mid,?_,.here rfl near near _⟩
    simp only [cancel,moved,served]
  · by_cases flows : o.flowId.truthy = true
    · obtain ⟨after,stopped,asked⟩ := stopFlow_asks (o:=o) discreet served markable
      refine ⟨after,?_,by rwa [if_pos flows]⟩
      simp only [cancel,moved,flows,if_true,stopped]
    · refine ⟨mid,?_,by rw [if_neg flows]; exact .refl mid⟩
      simp only [cancel,moved,flows,Bool.false_eq_true,if_false]

namespace Abreast

-- Nobody but the store and the runtime has a say in it, and the runtimes agree on new flows.
theorem register (abreast : a.Abreast b) (id : String) (f : Flow) :
    Both Abreast (a.register (.str id) f) (b.register (.str id) f) := by
  obtain ⟨x,first,here⟩ := register_asks a (.str id) f
  obtain ⟨y,second,there⟩ := register_asks b (.str id) f
  rw [here,there,abreast.receives]
  exact ⟨(abreast.asked first second).answered id _,rfl⟩

theorem steps : Steps Abreast := by
  refine ⟨clock,settings,?_,?_,?_,register,fun abreast => Storage.gist_reads abreast.stored,?_⟩
  · intro a b abreast first second
    refine abreast.unasked (Noted.unasked ⟨first,rfl⟩) (Noted.unasked ⟨second,rfl⟩) ?_
    rw [logAll_front,logAll_front,abreast.front]
  · intro a b abreast o event
    exact abreast.unasked (tell_unasked a o event) (tell_unasked b o event) (tell_front abreast.front o event)
  · intro a b abreast
    obtain ⟨front,id⟩ := nextId_front abreast.front
    exact ⟨abreast.unasked (nextId_unasked a) (nextId_unasked b) front,id⟩
  · intro a b abreast o
    obtain ⟨s,t,answer,here,there,alike⟩ := Storage.set_gist abreast.stored o
    exact ⟨s,t,answer,here,there,abreast.storing alike⟩

theorem cancel (abreast : a.Abreast b) (id : String) : Both Abreast (a.cancel (.str id)) (b.cancel (.str id)) := by
  obtain ⟨d,e,answer,here,there,moved⟩ := (steps.move abreast id (.into .cancelled)).parts
  match answer with
  | .error fault =>
    simp only [Desk.cancel,here,there]
    exact ⟨moved,rfl⟩
  | .ok none =>
    simp only [Desk.cancel,here,there]
    exact ⟨moved,rfl⟩
  | .ok (some o) =>
    obtain ⟨x,first,ends⟩ := cancel_asks abreast.first here
    obtain ⟨y,second,past⟩ := cancel_asks abreast.second there
    rw [first,second]
    exact ⟨moved.asked ends past,rfl⟩

theorem during (abreast : a.Abreast b) (t : Trial) : (a.during t).Abreast (b.during t) := by
  refine abreast.unasked ⟨rfl,rfl,rfl⟩ ⟨rfl,rfl,rfl⟩ ?_
  have fields := abreast.front
  simp only [Desk.front,Front.mk.injEq] at fields ⊢
  obtain ⟨settings,alarm,-,ids,made,notices,stored,told⟩ := fields
  exact ⟨settings,alarm,rfl,ids,made,notices,Storage.gist_breaking stored t.broken,told⟩

theorem lockstep : Lockstep Abreast Response.gist := by
  refine ⟨steps,cancel,?_,?_,?_,during,?_⟩
  · intro a b abreast id
    exact congrArg Response.found (Storage.get_gist abreast.stored id)
  · intro a b abreast f p
    refine congrArg Response.listed ?_
    rw [list_gist,list_gist,Storage.list_gist abreast.stored]
  · intro a b abreast
    rw [stats_gist,stats_gist,Storage.list_gist abreast.stored]
  · intro a b abreast
    exact abreast.storing (Storage.gist_breaking abreast.stored [])

end Abreast
end

def serving (d : Desk) (runtime : Runtime) : Desk := {d with runtime}

-- One session with two runtimes, of which one or both may fail to cancel.
structure Undisturbed (d : Desk) (x y : Runtime) (trials : List Trial) : Prop where
  -- At every place the next call has the same answer but for what a cancelled order reports,
  answers : ∀ earlier t later, trials = earlier ++ t :: later →
    (((d.serving y).endureAll earlier).endure t).2.gist = (((d.serving x).endureAll earlier).endure t).2.gist
  -- the same was told,
  told : ∀ earlier later, trials = earlier ++ later →
    ((d.serving y).endureAll earlier).tellings = ((d.serving x).endureAll earlier).tellings
  -- and the same is stored but for this.
  stored : ∀ earlier later, trials = earlier ++ later →
    ((d.serving y).endureAll earlier).storage.store.gist = ((d.serving x).endureAll earlier).storage.store.gist

theorem trials_undisturbed {d : Desk} {x y : Runtime} (same : ∀ place, (d.serving y).receives place = (d.serving x).receives place)
    (first : (d.serving x).Discreet) (second : (d.serving y).Discreet) (trials : List Trial) : d.Undisturbed x y trials := by
  have start : (d.serving x).Abreast (d.serving y) := ⟨rfl,same,first,second⟩
  have abreast (earlier : List Trial) := Abreast.lockstep.endureAll start earlier
  refine ⟨?_,?_,?_⟩
  · exact fun earlier t _ _ => (Abreast.lockstep.endure (abreast earlier) t).2
  · exact fun earlier _ _ => congrArg Front.tellings (abreast earlier).front
  · exact fun earlier _ _ => congrArg (fun front : Front => front.stored.1) (abreast earlier).front

-- A runtime that takes every flow, and says one thing to every cancellation.
def cancelling (reply : Reply) : Runtime := .remote ⟨fun _ => .accepted,fun _ => reply⟩

def withdrawn : List Trial := [placed,⟨⟨.epoch,.cancel "order_1"⟩,[]⟩,⟨⟨.epoch,.list .all .whole⟩,[]⟩]

theorem withdrawn_undisturbed :
    (∀ place, (attended.serving (cancelling (.failed "down" false))).receives place =
      (attended.serving (cancelling .accepted)).receives place) ∧
    (attended.serving (cancelling .accepted)).Discreet ∧ (attended.serving (cancelling (.failed "down" false))).Discreet ∧
    attended.Undisturbed (cancelling .accepted) (cancelling (.failed "down" false)) withdrawn := by
  have same : ∀ place, (attended.serving (cancelling (.failed "down" false))).receives place =
      (attended.serving (cancelling .accepted)).receives place := fun _ => rfl
  have first : (attended.serving (cancelling .accepted)).Discreet := by
    rintro r ⟨⟩ place message ⟨⟩
  have second : (attended.serving (cancelling (.failed "down" false))).Discreet := by
    rintro r ⟨⟩ place message ⟨⟩
  exact ⟨same,first,second,trials_undisturbed same first second withdrawn⟩

end Desk
end OrderDesk
