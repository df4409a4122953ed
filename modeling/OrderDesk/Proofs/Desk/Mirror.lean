import OrderDesk.Proofs.Desk.Listing
import OrderDesk.Proofs.Desk.Visits
import OrderDesk.Proofs.Store.Twin
-- One session at two desks that differ in their stores, one in memory and one a table. Both answer alike, tell alike and ask the
-- runtime alike, and what they store stays the same. Each visit takes one of the executions that the table has room to print.

namespace OrderDesk
namespace Desk

def on (d : Desk) (s : Storage) : Desk := {d with storage := s}

-- Desks that are one but for their stores, which hold the same orders.
structure Pair (broken : List (Access × Fault)) (room : Nat) (a b : Desk) : Prop where
  same : b = a.on b.storage
  stores : a.storage.Twins broken room b.storage

-- The clock shows a moment that the table can hold.
structure Twins (broken : List (Access × Fault)) (room : Nat) (a b : Desk) : Prop extends Pair broken room a b where
  present : a.clock.Legible

-- A call at both desks: they stay twins, and give one answer.
structure Mirrored (broken : List (Access × Fault)) (room : Nat) (x y : Desk × α) : Prop where
  desks : x.1.Twins broken room y.1
  answer : y.2 = x.2

-- What does not look at the store.
structure Blind (change : Desk → Desk) : Prop where
  on : ∀ d s, change (d.on s) = (change d).on s
  clock : ∀ d, (change d).clock = d.clock

namespace Blind

theorem log (e : Entry) : Blind (·.log e) := ⟨fun _ _ => rfl,fun _ => rfl⟩

theorem next {first second : Desk → Desk} (before : Blind first) (after : Blind second) : Blind fun d => second (first d) := by
  refine ⟨?_,?_⟩
  · intro d s
    rw [before.on,after.on]
  · intro d
    rw [after.clock,before.clock]

theorem logAll (entries : List Entry) : Blind (·.logAll entries) := by
  induction entries with
  | nil => exact ⟨fun _ _ => rfl,fun _ => rfl⟩
  | cons e rest ih => exact (log e).next ih

theorem tell (o : Order) (event : Event) : Blind (·.tell o event) := by
  refine ⟨?_,fun d => (tell_alike d o event).clock⟩
  intro d s
  unfold Desk.tell
  dsimp only [Desk.on]
  split
  · rfl
  · split
    · rfl
    · split <;> rfl

theorem announce (o : Order) (announcement : Announcement) : Blind (Desk.announce o · announcement) := by
  cases announcement with
  | entry e => exact log e
  | notice event => exact tell o event

theorem announceAll (o : Order) (announcements : List Announcement) : Blind (·.announceAll o announcements) := by
  induction announcements with
  | nil => exact ⟨fun _ _ => rfl,fun _ => rfl⟩
  | cons announcement rest ih => exact (announce o announcement).next ih

theorem announceCreation (o : Order) : Blind (·.announceCreation o) := by
  unfold Desk.announceCreation
  by_cases active : o.status = .active
  · simp only [if_pos active]
    exact ((log _).next (tell o _)).next (tell o _)
  · simp only [if_neg active]
    exact (log _).next (tell o _)

theorem asking (cancel : Bool) (flow : Json) :
    Blind fun d => {d with requests := d.requests + 1,journal := d.journal ++ [.asked cancel flow]} :=
  ⟨fun _ _ => rfl,fun _ => rfl⟩

theorem running (r : Runtime) : Blind fun d => {d with runtime := r} := ⟨fun _ _ => rfl,fun _ => rfl⟩

end Blind

namespace Twins
variable {broken : List (Access × Fault)} {room spare : Nat} {a b : Desk} {id : String} {o : Order}

theorem less (twins : a.Twins broken room b) (less : spare ≤ room) : a.Twins broken spare b :=
  ⟨⟨twins.same,twins.stores.less less⟩,twins.present⟩

theorem clock (twins : a.Twins broken room b) : b.clock = a.clock := (congrArg Desk.clock twins.same :)

theorem runtime (twins : a.Twins broken room b) : b.runtime = a.runtime := (congrArg Desk.runtime twins.same :)

theorem settings (twins : a.Twins broken room b) : b.settings = a.settings := (congrArg Desk.settings twins.same :)

theorem blind (twins : a.Twins broken room b) {change : Desk → Desk} (blind : Blind change) : (change a).Twins broken room (change b) := by
  have kept (d : Desk) : (change d).storage = d.storage := (congrArg Desk.storage (blind.on d d.storage) :)
  refine ⟨⟨?_,?_⟩,?_⟩
  · rw [kept,← blind.on,← twins.same]
  · rw [kept,kept]
    exact twins.stores
  · rw [blind.clock]
    exact twins.present

theorem storing (twins : a.Twins broken room b) {x y : Storage} (stores : x.Twins broken spare y) : (a.on x).Twins broken spare (b.on y) :=
  ⟨⟨(congrArg (Desk.on · y) twins.same :),stores⟩,twins.present⟩

end Twins

namespace Mirrored
variable {broken : List (Access × Fault)} {room : Nat} {x y : Desk × α}

theorem map (mirrored : Mirrored broken room x y) (f : α → β) : Mirrored broken room (x.1,f x.2) (y.1,f y.2) :=
  ⟨mirrored.desks,congrArg f mirrored.answer⟩

theorem parts (mirrored : Mirrored broken room x y) : ∃ d e answer, x = (d,answer) ∧ y = (e,answer) ∧ d.Twins broken room e :=
  ⟨x.1,y.1,x.2,rfl,Prod.ext rfl mirrored.answer,mirrored.desks⟩

end Mirrored

-- What a move answers is the order of the id that was named.
theorem move_named {a b : Desk} {id : String} {m : Move} {o : Order} (stores : a.storage.Twins broken room b.storage)
    (answer : (a.move (.str id) m).2 = .ok (some o)) : o.id = .str id := by
  obtain ⟨found,got,decided⟩ := amend_reads answer
  obtain ⟨old,rfl,rfl⟩ := Move.decide_answer decided
  rw [Move.apply_id]
  exact (stores.found got).sound.id

namespace Twins
variable {broken : List (Access × Fault)} {room spare : Nat} {a b : Desk} {id : String} {o : Order}

-- One decision on what both have stored; what it writes can be written in both.
theorem amend (twins : a.Twins broken room b) (id : String) (decide : Option Order → Decision α) (less : spare ≤ room)
    (writes : ∀ found, (∀ old, found = some old → old.Shared id broken room) → ∀ o answer announcements,
      decide found = .store o answer announcements → o.Shared id broken spare) :
    Mirrored broken spare (a.amend (.str id) decide) (b.amend (.str id) decide) := by
  have spared := twins.less less
  simp only [Desk.amend,Json.isKey,Bool.not_true,Bool.false_eq_true,if_false,twins.stores.get_same]
  cases got : a.storage.get (.str id) with
  | error fault => exact ⟨spared,rfl⟩
  | ok found =>
    dsimp only
    cases decided : decide found with
    | fail fault => exact ⟨spared,rfl⟩
    | keep answer entries => exact ⟨spared.blind (.logAll entries),rfl⟩
    | store o answer announcements =>
      have held : ∀ old, found = some old → old.Shared id broken room := by
        rintro old rfl
        exact twins.stores.found got
      rcases spared.stores.set_twins (writes found held o answer announcements decided) with
        ⟨fault,here,there⟩ | ⟨x,y,here,there,stores⟩
      · simp only [here,there]
        exact ⟨spared,rfl⟩
      · simp only [here,there]
        exact ⟨(spared.storing stores).blind (.announceAll o announcements),rfl⟩

theorem move (twins : a.Twins broken room b) (id : String) {m : Move} (text : m.error = .null ∨ ∃ s, m.error = .str s) :
    Mirrored broken room (a.move (.str id) m) (b.move (.str id) m) := by
  rw [Desk.move,Desk.move,twins.clock]
  refine twins.amend id _ (Nat.le_refl room) ?_
  intro found held o answer announcements decided
  cases found with
  | none => cases decided
  | some old =>
    obtain ⟨sound,legible,fits⟩ := held old rfl
    by_cases allowed : m.allows old.status = true
    · obtain ⟨own,made⟩ := Move.decide_allowed (.str id) a.clock allowed
      cases made.symm.trans decided
      exact ⟨Move.apply_sound sound text,Move.apply_moments legible twins.present,
        fun digits fault member => (fits digits fault member).apply m a.clock⟩
    · have refused : ∀ o, some old = some o → ¬ m.allows o.status = true := fun o same => Option.some.inj same ▸ allowed
      obtain ⟨entries,made⟩ := Move.decide_refused (.str id) a.clock refused
      cases made.symm.trans decided

theorem moves (twins : a.Twins broken room b) (id : String) {m : Move} (text : m.error = .null ∨ ∃ s, m.error = .str s) :
    Mirrored broken room (a.moves (.str id) m) (b.moves (.str id) m) :=
  (twins.move id text).map (Except.map Option.isSome)

theorem recordExecution (twins : a.Twins broken (room + 1) b) (id : String) :
    Mirrored broken room (a.recordExecution (.str id)) (b.recordExecution (.str id)) := by
  rw [Desk.recordExecution,Desk.recordExecution,twins.clock]
  refine twins.amend id _ (Nat.le_succ room) ?_
  intro found held o answer announcements decided
  rcases Execution.decide_cases (.str id) a.clock found with
    ⟨fault,made⟩ | ⟨entries,made⟩ | ⟨old,after,before,later,last,own,stored,takes,made⟩
  · cases made.symm.trans decided
  · cases made.symm.trans decided
  · obtain ⟨sound,legible,fits⟩ := held old stored
    cases made.symm.trans decided
    exact ⟨takes.sound sound,takes.moments (b:=.table) legible twins.present,
      fun digits fault member => (fits digits fault member).takes takes⟩

theorem prepare (twins : a.Twins broken room b) (id : String) (snapshot : Snapshot) :
    Mirrored broken room (a.prepare (.str id) snapshot) (b.prepare (.str id) snapshot) := by
  rw [Desk.prepare,Desk.prepare,twins.clock]
  refine twins.amend id _ (Nat.le_refl room) ?_
  intro found held o answer announcements decided
  rcases Tick.decide_cases (.str id) snapshot a.clock found with
    ⟨fault,made⟩ | ⟨own,entries,made⟩ | ⟨old,after,merged,trailing,ended,own,stored,sees,made⟩
  · cases made.symm.trans decided
  · cases made.symm.trans decided
  · obtain ⟨sound,legible,fits⟩ := held old stored
    cases made.symm.trans decided
    exact ⟨sees.sound sound,sees.moments (b:=.table) legible twins.present,
      fun digits fault member => (fits digits fault member).sees sees⟩

theorem flagged (shared : o.Shared id broken room) (present : a.clock.Legible) (message : String) :
    Order.Shared id broken room {o with error := .str message,updatedAt := a.clock} :=
  ⟨shared.sound.flagged message a.clock,shared.legible.flagged (.str message) present,
    fun digits fault member => (shared.fits digits fault member).flagged (.str message) a.clock⟩

theorem flagError (twins : a.Twins broken room b) (id message : String) :
    Mirrored broken room (a.flagError (.str id) message) (b.flagError (.str id) message) := by
  rw [Desk.flagError,Desk.flagError,twins.clock]
  refine twins.amend id _ (Nat.le_refl room) ?_
  intro found held o answer announcements decided
  cases found with
  | none => cases decided
  | some old =>
    cases decided
    exact flagged (held old rfl) twins.present message

-- The answer of a runtime may take the order away at both.
theorem answered (twins : a.Twins broken room b) (id : String) (reply : Reply) :
    (a.answered (.str id) reply).Twins broken room (b.answered (.str id) reply) := by
  unfold Desk.answered
  split
  · exact twins.storing (twins.stores.delete_twins id)
  · exact twins

theorem register (twins : a.Twins broken room b) (id : String) (f : Flow) : Mirrored broken room (a.register (.str id) f) (b.register (.str id) f) := by
  obtain ⟨s,rfl⟩ : ∃ s, b = a.on s := ⟨_,twins.same⟩
  unfold Desk.register
  dsimp only [Desk.on]
  cases running : a.runtime with
  | none =>
    dsimp only
    rw [← running]
    exact ⟨twins,rfl⟩
  | registry r => exact ⟨twins.blind ((Blind.running _).next (.log _)),rfl⟩
  | remote r =>
    dsimp only
    rw [← running]
    exact ⟨(twins.blind (.asking false (.str f.id))).answered id _,rfl⟩

theorem stop (twins : a.Twins broken room b) (id : String) (flow : Json) : Mirrored broken room (a.stop (.str id) flow) (b.stop (.str id) flow) := by
  obtain ⟨s,rfl⟩ : ∃ s, b = a.on s := ⟨_,twins.same⟩
  unfold Desk.stop
  dsimp only [Desk.on]
  cases running : a.runtime with
  | none =>
    dsimp only
    rw [← running]
    exact ⟨twins,rfl⟩
  | registry r =>
    dsimp only
    cases (r.cancelBy flow).2 with
    | accepted => exact ⟨twins.blind ((Blind.running _).next (.log _)),rfl⟩
    | refused => exact ⟨twins.blind (.running _),rfl⟩
    | failed message forgets => exact ⟨twins.blind (.running _),rfl⟩
  | remote r =>
    dsimp only
    rw [← running]
    exact ⟨(twins.blind (.asking true flow)).answered id _,rfl⟩

-- A flow that is not stopped leaves an error with its order.
theorem stopFlow (twins : a.Twins broken room b) (id : String) (named : o.id = .str id) :
    Mirrored broken room (a.stopFlow (.str id) o) (b.stopFlow (.str id) o) := by
  obtain ⟨d,e,reply,here,there,desks⟩ := (twins.stop id o.flowId).parts
  unfold Desk.stopFlow
  rw [named,here,there]
  cases reply with
  | accepted => exact ⟨desks,rfl⟩
  | refused => exact ((desks.blind (.log _)).flagError id _).map (Except.map fun _ => true)
  | failed message forgets => exact ((desks.blind (.log _)).flagError id _).map (Except.map fun _ => true)

theorem cancel (twins : a.Twins broken room b) (id : String) : Mirrored broken room (a.cancel (.str id)) (b.cancel (.str id)) := by
  obtain ⟨d,e,answer,here,there,desks⟩ := (twins.move id (m:=.into .cancelled) (Or.inl rfl)).parts
  unfold Desk.cancel
  rw [here,there]
  match answer with
  | .error fault => exact ⟨desks,rfl⟩
  | .ok none => exact ⟨desks,rfl⟩
  | .ok (some o) =>
    have named : o.id = .str id := move_named twins.stores (by rw [here])
    dsimp only
    rw [desks.runtime]
    cases d.runtime with
    | none => exact ⟨desks,rfl⟩
    | registry | remote =>
      dsimp only
      split
      · exact desks.stopFlow id named
      · exact ⟨desks,rfl⟩

theorem updateStatus (twins : a.Twins broken room b) (id : String) (status : Json) (error branch : Option String) :
    Mirrored broken room (a.updateStatus (.str id) status (.optStr error) branch) (b.updateStatus (.str id) status (.optStr error) branch) := by
  unfold Desk.updateStatus
  cases Status.ofJson? status with
  | none => exact ⟨twins.blind (.log _),rfl⟩
  | some target =>
    dsimp only
    by_cases reported : target.fromRuntime = true
    · rw [if_pos reported,if_pos reported]
      exact twins.moves id (Json.optStr_text error)
    · rw [if_neg reported,if_neg reported]
      exact ⟨twins.blind (.log _),rfl⟩

theorem registered (twins : a.Twins broken room b) (f : Flow) (shared : o.Shared id broken room) :
    ∃ d e kept running, a.registered o f = (d,kept,running) ∧ b.registered o f = (e,kept,running) ∧ d.Twins broken room e ∧
      kept.Shared id broken room := by
  obtain ⟨d,e,reply,here,there,desks⟩ := (twins.register id f).parts
  rw [← shared.sound.id] at here there
  unfold Desk.registered
  rw [here,there]
  cases reply with
  | accepted => exact ⟨d,e,o,true,rfl,rfl,desks,shared⟩
  | refused => exact ⟨d,e,o,true,rfl,rfl,desks,shared⟩
  | failed message forgets =>
    dsimp only
    rw [desks.clock]
    exact ⟨_,_,_,false,rfl,rfl,desks.blind (.log _),flagged shared desks.present _⟩

theorem accept (twins : a.Twins broken room b) (f : Flow) (shared : o.Shared id broken room) :
    Mirrored broken room (a.accept o f) (b.accept o f) := by
  obtain ⟨d,e,kept,running,here,there,desks,sharedKept⟩ := twins.registered f shared
  obtain ⟨s,rfl⟩ : ∃ s, e = d.on s := ⟨_,desks.same⟩
  unfold Desk.accept
  rw [here,there]
  dsimp only [Desk.on]
  have active : ∀ starts : Bool,
      Order.Shared id broken room (if starts = true then {kept with status := .active} else kept) := by
    intro starts
    obtain ⟨sound,legible,fits⟩ := sharedKept
    cases starts with
    | false => exact ⟨sound,legible,fits⟩
    | true => exact ⟨⟨sound.id,sound.flow,sound.error,sound.params⟩,
        ⟨legible.createdAt,legible.updatedAt,legible.triggeredAt,legible.completedAt,legible.schedule⟩,
        fun digits fault member => (fits digits fault member).kept rfl (fun _ held => Or.inl held) rfl⟩
  have sharedFinal := active (running && d.settings.autoActivate)
  generalize (if (running && d.settings.autoActivate) = true then {kept with status := .active} else kept) = final at sharedFinal
  rcases desks.stores.set_twins sharedFinal with ⟨fault,first,second⟩ | ⟨x,y,first,second,stores⟩
  · rw [first,show s.set final = (s,.error fault) from second]
    exact ⟨desks,rfl⟩
  · rw [first,show s.set final = (y,.ok ()) from second]
    exact ⟨(desks.storing stores).blind (.announceCreation final),rfl⟩

theorem nextId (twins : a.Twins broken room b) : b.nextId.1 = a.nextId.1 ∧ a.nextId.2.Twins broken room b.nextId.2 := by
  obtain ⟨s,rfl⟩ : ∃ s, b = a.on s := ⟨_,twins.same⟩
  unfold Desk.nextId
  dsimp only [Desk.on]
  split
  · exact ⟨rfl,⟨⟨rfl,twins.stores⟩,twins.present⟩⟩
  · exact ⟨rfl,⟨⟨rfl,twins.stores⟩,twins.present⟩⟩

-- Parameters that are read are printed as they are.
theorem create (twins : a.Twins broken room b) (kind params : Json)
    (printed : ∀ p, Params.parse kind params = .ok p → ∀ digits fault, (.print digits,fault) ∈ broken →
      p.toJson.within digits = true) : Mirrored broken room (a.create kind params) (b.create kind params) := by
  unfold Desk.create
  cases parsed : Params.parse kind params with
  | error fault => exact ⟨twins,rfl⟩
  | ok p =>
    obtain ⟨ids,next⟩ := twins.nextId
    dsimp only
    rw [ids]
    generalize a.nextId = issued at next
    generalize b.nextId.2 = e at next
    obtain ⟨id,d⟩ := issued
    dsimp only at next ⊢
    rw [next.clock,next.settings]
    cases made : (Order.fresh id p d.clock).flow d.settings.flow d.clock with
    | error fault => exact ⟨next,rfl⟩
    | ok f =>
      have new := fresh_new (Params.parse_settled parsed) d.clock id f.id
      refine (next.blind (.log _)).accept f ⟨new.sound,new.moments next.present,fun digits fault member => ?_⟩
      exact new.prints (printed p parsed digits fault member) (next.stores.roomy digits fault member)

end Twins
end Desk
end OrderDesk
