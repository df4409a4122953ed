import OrderDesk.Desk.Create
import OrderDesk.Desk.Listing
import OrderDesk.Proofs.Calendar.Digits
import OrderDesk.Proofs.Store.Laws

-- Sessions at the desk: visits one after another, each at its own time with one call. A session starts with an
-- empty store that works, and every new order gets an id of its own.
namespace OrderDesk

inductive Call where
  | create (kind params : Json)
  | activate (id : String)
  | resume (id : String)
  | pause (id : String)
  | cancel (id : String)
  | updateStatus (id status : String) (error branch : Option String)
  | recordExecution (id : String)
  | prepare (id : String) (snapshot : Snapshot)
  | get (id : String)
  | list (f : Filter) (p : Page)
  | stats

inductive Response where
  | created (answer : Except Fault Creation)
  | done (answer : Except Fault Bool)
  | prepared (answer : Except Fault (Option Snapshot))
  | found (answer : Except Fault (Option Order))
  | listed (answer : Except Fault (List Order))
  | counted (answer : Except Fault Stats)

structure Visit where
  now : Timestamp
  call : Call

namespace Call

-- The order that a call names.
def subject? : Call → Option String
  | activate id | resume id | pause id | cancel id | updateStatus id .. | recordExecution id | prepare id _ => some id
  | create .. | get _ | list .. | stats => none

def creates : Call → Bool
  | create .. => true
  | _ => false

-- A call that names an order creates none.
theorem subject_creates {call : Call} {id : String} (named : call.subject? = some id) : call.creates = false := by
  cases call <;> first | rfl | cases named

-- The move that a call asks for.
def move? : Call → Option Move
  | activate _ => some (.into .active)
  | resume _ => some {Move.into .active with only := some [.paused]}
  | pause _ => some (.into .paused)
  | cancel _ => some (.into .cancelled)
  | updateStatus _ status error branch =>
    match Status.ofJson? (.str status) with
    | some target => if target.fromRuntime then some ⟨target,none,.optStr error,branch⟩ else none
    | none => none
  | _ => none

end Call

-- True is the answer of a call that did what it was asked for.
def Response.succeeded : Response → Bool
  | done (.ok answer) => answer
  | _ => false

namespace Desk

def perform (d : Desk) : Call → Desk × Response
  | .create kind params => let (d,answer) := d.create kind params; (d,.created answer)
  | .activate id => let (d,answer) := d.activate (.str id); (d,.done answer)
  | .resume id => let (d,answer) := d.resume (.str id); (d,.done answer)
  | .pause id => let (d,answer) := d.pause (.str id); (d,.done answer)
  | .cancel id => let (d,answer) := d.cancel (.str id); (d,.done answer)
  | .updateStatus id status error branch =>
    let (d,answer) := d.updateStatus (.str id) (.str status) (.optStr error) branch
    (d,.done answer)
  | .recordExecution id => let (d,answer) := d.recordExecution (.str id); (d,.done answer)
  | .prepare id snapshot => let (d,answer) := d.prepare (.str id) snapshot; (d,.prepared answer)
  | .get id => (d,.found (d.get (.str id)))
  | .list f p => (d,.listed (d.list f p))
  | .stats => (d,.counted d.stats)

def visit (d : Desk) (v : Visit) : Desk × Response := {d with clock := v.now}.perform v.call

def run (d : Desk) (visits : List Visit) : Desk := visits.foldl (fun d v => (d.visit v).1) d

def stored (d : Desk) (id : String) : Option Order := d.storage.store.find id

def backend (d : Desk) : Backend := d.storage.store.backend

-- The ids that are still to come, by their places.
def idAt (d : Desk) (place : Nat) : String :=
  match d.ids[place]? with
  | some id => id
  | none => s!"order_{d.made + (place - d.ids.length) + 1}"

end Desk

def creations (visits : List Visit) : Nat := visits.countP fun v => v.call.creates

namespace Desk

-- An empty store where nothing fails, and where numbers of any length are printed: `broken` names no limit. Over a table every
-- reading of the clock is one that its text can hold, with no offset, universal time or an offset of a second and more;
-- what is said of sessions over a table is said of such clocks. There are ids enough for the new orders.
structure Opened (d : Desk) (visits : List Visit) : Prop where
  empty : d.storage.store = .empty d.backend
  working : d.storage.broken = []
  clocks : ∀ v ∈ visits, d.backend.Keeps v.now
  distinct : ∀ j k, j < creations visits → k < creations visits → d.idAt j = d.idAt k → j = k

-- A desk where nothing is stored and nobody listens, its ids by number.
def vacant (b : Backend) : Desk := ⟨.standard,⟨.empty b,[]⟩,.none,.none,.origin,[],0,0,0,[]⟩

theorem numbered_distinct {j k : Nat} (same : s!"order_{j}" = s!"order_{k}") : j = k := by
  have digits := congrArg (fun text : String => text.toList.drop 6) same
  simp only [toString,String.toList_append] at digits
  have value := congrArg (fun digits => Nat.ofDigitChars 10 digits 0) digits
  simpa [Nat.ofDigitChars_ten_toDigits] using value

theorem vacant_opened {b : Backend} {visits : List Visit} (clocks : ∀ v ∈ visits, b.Keeps v.now) :
    (vacant b).Opened visits := by
  have backend : (vacant b).backend = b := by cases b <;> rfl
  refine ⟨?_,rfl,?_,?_⟩
  · rw [backend]
    rfl
  · rwa [backend]
  · intro j k _ _ same
    have := numbered_distinct same
    simp only [vacant,List.length_nil] at this
    omega

-- What every desk of a session is like, with the visits that are still to come.
structure Ready (d : Desk) (visits : List Visit) : Prop where
  working : d.storage.broken = []
  store : d.storage.store.Sound
  clocks : ∀ v ∈ visits, d.backend.Keeps v.now
  orders : ∀ id o, d.stored id = some o → o.Sound id ∧ o.Moments d.backend.Keeps
  fresh : ∀ k, k < creations visits → d.stored (d.idAt k) = none
  distinct : ∀ j k, j < creations visits → k < creations visits → d.idAt j = d.idAt k → j = k

theorem opened_nothing {d : Desk} {visits : List Visit} (opened : d.Opened visits) (id : String) : d.stored id = none := by
  rw [stored,opened.empty]
  exact Store.empty_find _ _

-- Nothing is stored yet, so anything can be said of it.
theorem opened_holds {d : Desk} {visits : List Visit} {holds : String → Order → Prop} (opened : d.Opened visits) :
    ∀ id o, d.stored id = some o → holds id o := by
  intro id o held
  rw [opened_nothing opened id] at held
  cases held

theorem opened_ready {d : Desk} {visits : List Visit} (opened : d.Opened visits) : d.Ready visits := by
  refine ⟨opened.working,?_,opened.clocks,opened_holds opened,?_,opened.distinct⟩
  · rw [opened.empty]
    exact Store.empty_sound _
  · exact fun k _ => opened_nothing opened (d.idAt k)

theorem run_append (d : Desk) (first second : List Visit) : d.run (first ++ second) = (d.run first).run second := by
  simp [run]

theorem run_snoc (d : Desk) (first : List Visit) (v : Visit) : d.run (first ++ [v]) = ((d.run first).visit v).1 := by
  simp [run]

theorem get_stored {d : Desk} {visits : List Visit} (ready : d.Ready visits) (id : String) :
    d.get (.str id) = .ok (d.stored id) := by
  rw [get,Storage.get,Storage.working,Storage.fault?,ready.working]
  exact Store.get_find ready.store id

end Desk
end OrderDesk
