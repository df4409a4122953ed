import OrderDesk.Proofs.Desk.Settled
-- Sessions at a desk whose store gets out of order now and then. Every call that is refused, and every call that fails, leaves the
-- stored orders as they were and nobody told, whatever the store could not do while the call lasted; only where a table cannot
-- commit, the row that it could not commit stays in it.

namespace OrderDesk

-- A visit, and what the store cannot do while it lasts.
structure Trial where
  visit : Visit
  broken : List (Access × Fault)

namespace Desk

def hampered (d : Desk) (broken : List (Access × Fault)) : Desk := {d with storage := {d.storage with broken}}

-- The store is in order again afterwards.
def endure (d : Desk) (t : Trial) : Desk × Response :=
  let (after,response) := (d.hampered t.broken).visit t.visit
  (after.mended,response)

def endureAll (d : Desk) (trials : List Trial) : Desk := trials.foldl (fun d t => (d.endure t).1) d

-- The desk while the call lasts.
def during (d : Desk) (t : Trial) : Desk := {d.hampered t.broken with clock := t.visit.now}

-- The row of the order that a call names or makes, that a table could not commit. It is there; nobody is told.
structure Stays (d : Desk) (t : Trial) (after : Desk) : Prop where
  commit : ∃ fault, (d.during t).storage.commit = .error fault
  row : ∃ id o, (t.visit.call.subject? = some id ∨ t.visit.call.creates = true ∧ id = d.idAt 0) ∧ o.id = .str id ∧
    d.storage.store.set o = .ok after.storage.store
  messages : after.messages = d.messages
  notices : after.notices = d.notices

section
variable {d after : Desk} {visits : List Visit} {t : Trial} {id : String} {o : Order}

-- What remains of a call is seen with the store in order again.

theorem Alike.mended (alike : d.Alike after) : d.mended.Alike after.mended := by
  refine ⟨alike.settings,?_,alike.clock,alike.ids,alike.made⟩
  rw [Desk.mended,Desk.mended,alike.storage]

theorem Noted.mended (noted : d.Noted after) : d.mended.Noted after.mended := by
  obtain ⟨entries,rfl⟩ := noted
  refine ⟨entries,?_⟩
  rw [logAll_journal,logAll_journal]
  rfl

theorem Alike.symm (alike : d.Alike after) : after.Alike d :=
  ⟨alike.settings.symm,alike.storage.symm,alike.clock.symm,alike.ids.symm,alike.made.symm⟩

theorem Alike.calmed (alike : d.Alike after) : d.calmed.Alike after.calmed := by
  refine ⟨alike.settings,?_,alike.clock,alike.ids,alike.made⟩
  rw [Desk.calmed,Desk.calmed,alike.storage]

-- An order that was cancelled can be marked with an error as well, if it is still there.
theorem flagError_again {written : Storage} (made : d.storage.write o = .ok written) (commits : written.commit = .ok ())
    (reads : d.storage.working .get = .ok ()) (ready : after.calmed.Ready visits) (present : after.backend.Keeps after.clock)
    (broken : after.storage.broken = d.storage.broken) (backend : after.backend = d.backend)
    (found : after.stored id = some o ∨ after.stored id = none) (message : String) :
    (after.flagError (.str id) message).2 = .ok () := by
  have works : after.storage.working .get = .ok () := (Storage.working_same broken .get).trans reads
  have got : after.storage.get (.str id) = .ok (after.stored id) :=
    (Storage.get_mended works (.str id)).symm.trans (storage_get ready id)
  simp only [flagError,amend,Json.isKey,Bool.not_true,Bool.false_eq_true,if_false,got]
  rcases found with held | gone
  · obtain ⟨sound,moments⟩ := ready.orders id o held
    obtain ⟨store,stored,-⟩ := Store.set_becomes (s:=after.storage.store) ready.store (sound.flagged message after.clock)
      (moments.flagged (.str message) present)
    have again := Storage.write_again (p:={o with error := .str message,updatedAt := after.clock}) made broken backend
      (fun _ => rfl) stored
    have commit : Storage.commit {after.storage with store} = .ok () := by
      rw [Storage.write_commit again,Storage.commit_same broken backend,← Storage.write_commit made,commits]
    have set := Storage.set_done.mpr ⟨again,commit⟩
    simp only [held,set]
  · simp only [gone]

theorem stopFlow_answers {written : Storage} (made : d.storage.write o = .ok written) (commits : written.commit = .ok ())
    (reads : d.storage.working .get = .ok ()) (ready : after.calmed.Ready visits) (present : after.backend.Keeps after.clock)
    (broken : after.storage.broken = d.storage.broken) (backend : after.backend = d.backend) (held : after.stored id = some o)
    (named : o.id = .str id) : (after.stopFlow (.str id) o).2 = .ok true := by
  obtain ⟨_,_,found,stopped,changes,outcome⟩ := stop_changes id o.flowId ready
  rw [stop_calmed] at stopped
  obtain ⟨rfl,-⟩ := Prod.mk.inj stopped
  have readyMid := changes.shrunk ready outcome
  have brokenMid := (stop_broken after (.str id) o.flowId).trans broken
  unfold stopFlow
  rw [named]
  generalize after.stop (.str id) o.flowId = answered at readyMid brokenMid changes
  obtain ⟨mid,reply⟩ := answered
  have backendMid : mid.backend = after.backend := changes.backend
  have clockMid : mid.clock = after.clock := changes.clock
  have stored : mid.stored id = found := changes.here
  have here : mid.stored id = some o ∨ mid.stored id = none := by
    rw [stored]
    rcases outcome with same | gone
    · exact Or.inl (same.trans held)
    · exact Or.inr gone
  have keeps : mid.backend.Keeps mid.clock := by
    rw [backendMid,clockMid]
    exact present
  have flags (e : Entry) (message : String) : (((mid.log e).flagError (.str id) message).2.map fun _ => true) = .ok true := by
    have noted : (mid.log e).calmed.Ready visits := (log_alike mid.calmed e).ready readyMid
    have flagged : ((mid.log e).flagError (.str id) message).2 = .ok () :=
      flagError_again made commits reads noted keeps brokenMid (backendMid.trans backend) here message
    rw [flagged]
    rfl
  cases reply with
  | accepted => rfl
  | refused => exact flags _ _
  | failed message forgets => exact flags _ _

theorem cancel_none (moved : (d.move (.str id) (.into .cancelled)).2 = .ok none) : (d.cancel (.str id)).2 = .ok false := by
  unfold cancel
  generalize d.move (.str id) (.into .cancelled) = result at moved
  obtain ⟨after,answer⟩ := result
  cases moved
  rfl

-- A cancellation that is written is answered, whatever the runtime says to it.
theorem cancel_answers (ready : d.calmed.Ready visits) (present : d.backend.Keeps d.clock)
    (moved : (d.move (.str id) (.into .cancelled)).2 = .ok (some o)) : (d.cancel (.str id)).2 = .ok true := by
  obtain ⟨old,announcements,storage,got,rfl,written,commits,made⟩ := move_writes moved
  have calm := move_calmed moved
  have broken : (d.move (.str id) (.into .cancelled)).1.storage.broken = d.storage.broken := amend_broken d _ _
  rcases move_effect (d:=d.calmed) (m:=.into .cancelled) id ready present (Or.inl rfl) with ⟨_,other,-⟩ | ⟨_,found,held,-,same,changes⟩
  · cases (Prod.mk.inj (calm.symm.trans other)).2
  · obtain ⟨soundAfter,readyAfter,keptAfter⟩ := cancelled_ready ready present held changes
    obtain ⟨rfl,own⟩ := Prod.mk.inj (calm.symm.trans same)
    have same : (Move.into .cancelled).apply d.clock old = (Move.into .cancelled).apply d.calmed.clock found :=
      Option.some.inj (Except.ok.inj own)
    have backend : (d.move (.str id) (.into .cancelled)).1.backend = d.backend := changes.backend
    have here : (d.move (.str id) (.into .cancelled)).1.stored id = some ((Move.into .cancelled).apply d.clock old) := by
      rw [same]
      exact changes.here
    have named : ((Move.into .cancelled).apply d.clock old).id = .str id := by
      rw [same]
      exact soundAfter.id
    have stops := stopFlow_answers written commits (Storage.get_works got) readyAfter keptAfter broken backend here named
    unfold cancel
    generalize d.move (.str id) (.into .cancelled) = result at moved stops
    obtain ⟨after,answer⟩ := result
    cases moved
    dsimp only at stops ⊢
    split
    · rfl
    · split
      · exact stops
      · rfl

theorem cancel_done (ready : d.Ready visits) (present : d.backend.Keeps d.clock) (id : String) :
    ∃ answer, (d.cancel (.str id)).2 = .ok answer := by
  rcases move_effect (m:=.into .cancelled) id ready present (Or.inl rfl) with ⟨after,moved,-⟩ | ⟨after,o,-,-,moved,-⟩
  · exact ⟨false,cancel_none (congrArg Prod.snd moved)⟩
  · have calm : d.calmed.Ready visits := ⟨rfl,ready.store,ready.clocks,ready.orders,ready.fresh,ready.distinct⟩
    exact ⟨true,cancel_answers calm present (congrArg Prod.snd moved)⟩

theorem Uncommitted.stays {fault : Fault} (uncommitted : (d.during t).Uncommitted after id fault)
    (subject : t.visit.call.subject? = some id ∨ t.visit.call.creates = true ∧ id = d.idAt 0) : d.Stays t after.mended := by
  obtain ⟨⟨o,named,written⟩,commit,messages,notices⟩ := uncommitted
  obtain ⟨-,-,store,stored,same⟩ := Storage.write_parts.mp written
  refine ⟨⟨fault,(Storage.write_commit written).symm.trans commit⟩,⟨id,o,subject,named,?_⟩,messages,notices⟩
  exact stored.trans (congrArg (fun storage => Except.ok (Storage.store storage)) same)

theorem perform_create (d : Desk) (kind params : Json) :
    d.perform (.create kind params) = ((d.create kind params).1,.created (d.create kind params).2) := rfl

end

-- Somebody listens, and the runtime runs what it gets.
def attended : Desk :=
  {vacant .memory with
    runtime := .remote ⟨fun _ => .accepted,fun _ => .accepted⟩
    alarm := .sinks [⟨.console,none⟩]}

def early : Trial := ⟨⟨.origin,.resume "order_1"⟩,[]⟩

def placed : Trial := ⟨⟨.origin,.create (.str "stop-loss") (.obj [("token",.str "ETH"),("triggerPrice",.int 100)])⟩,[]⟩

def unwritten : Trial := ⟨{placed.visit with now := .epoch},[(.set,.raised "RuntimeError" "disk full")]⟩

end Desk
end OrderDesk
