import OrderDesk.Proofs.Desk.Trouble
-- What a call leaves undone. A refusal leaves entries in the log and nothing else. A failure comes before the one write, or it
-- is the commit that fails, and it always comes before anything is told.

namespace OrderDesk

namespace Response

-- The answers by which a call says that it did nothing.
def refused : Response → Bool
  | done (.ok false) | prepared (.ok none) => true
  | _ => false

def failed : Response → Bool
  | created (.error _) | done (.error _) | prepared (.error _) | found (.error _) | listed (.error _) | counted (.error _) => true
  | _ => false

end Response

-- A move is written and answered with the order, or refused and answered with nothing.
theorem Move.decide_cases (m : Move) (id : Json) (now : Timestamp) (found : Option Order) :
    (∃ entries, m.decide id now found = .keep none entries) ∨ ∃ old announcements, found = some old ∧
      m.decide id now found = .store (m.apply now old) (some (m.apply now old)) announcements := by
  cases found with
  | none => exact Or.inl ⟨_,rfl⟩
  | some o =>
    by_cases allowed : m.allows o.status = true
    · obtain ⟨announcements,made⟩ := decide_allowed id now allowed
      exact Or.inr ⟨o,announcements,rfl,made⟩
    · exact Or.inl (decide_refused id now fun other same => Option.some.inj same ▸ allowed)

-- No row is of an id at which nothing is found.
theorem Store.rows_absent {rows : List Row} {id : String} (sound : (table rows).Sound) (absent : (table rows).find id = none) :
    rows.filter (!rowHasId (some id) ·) = rows := by
  refine List.filter_eq_self.mpr fun r member => ?_
  cases found : rows.find? (rowHasId (some id)) with
  | none => simpa using List.find?_eq_none.mp found r member
  | some own =>
    obtain ⟨o,read⟩ := sound own (List.mem_of_find?_eq_some found)
    rw [find,found,Option.bind_some,read] at absent
    cases absent

-- Deleting what is not there leaves every order and row in its place.
theorem Store.delete_absent {s : Store} {id : String} (sound : s.Sound) (absent : s.find id = none) :
    ∃ found, s.delete (.str id) = .ok (s,found) := by
  cases s with
  | memory orders =>
    have others : orders.filter (!hasId (.str id) ·) = orders := by
      refine List.filter_eq_self.mpr fun o member => ?_
      simpa using List.find?_eq_none.mp absent o member
    exact ⟨_,by simp only [delete,usableId,Json.isKey,if_true,Except.map,others]; rfl⟩
  | table rows => exact ⟨_,by simp only [delete,columnText,Except.map,rows_absent sound absent]; rfl⟩

namespace Desk

-- Nothing is written and nobody is told.
structure Untouched (d after : Desk) : Prop where
  storage : after.storage = d.storage
  messages : after.messages = d.messages
  notices : after.notices = d.notices

-- Nothing is asked of the runtime.
structure Unasked (d after : Desk) : Prop where
  runtime : after.runtime = d.runtime
  requests : after.requests = d.requests
  requested : after.requested = d.requested

-- All that is new are entries in the log.
def Noted (d after : Desk) : Prop := ∃ entries, after = d.logAll entries

-- The row of an order is written and cannot be committed; nobody is told.
structure Uncommitted (d after : Desk) (id : String) (fault : Fault) : Prop where
  row : ∃ o : Order, o.id = .str id ∧ d.storage.write o = .ok after.storage
  commit : after.storage.commit = .error fault
  messages : after.messages = d.messages
  notices : after.notices = d.notices

-- What a call that writes once comes to, beside what it comes to with everything in order.
inductive Settles (d : Desk) (id : Json) (no : α) : Desk × Except Fault α → Desk × Except Fault α → Prop where
  | answered {after : Desk} {answer : α} (refused : answer = no → d.Noted after) :
      Settles d id no (after,.ok answer) (after.calmed,.ok answer)
  | idle {fault : Fault} {calm : Desk × Except Fault α} : Settles d id no (d,.error fault) calm
  | uncommitted {old o : Order} {storage : Storage} {told : Desk} {fault : Fault} {answer : α}
      (got : d.storage.get id = .ok (some old)) (named : o.id = old.id) (written : d.storage.write o = .ok storage)
      (commit : storage.commit = .error fault) (alike : Alike {d with storage} told) :
      Settles d id no ({d with storage},.error fault) (told.calmed,.ok answer)

section
variable {d after : Desk} {id : Json}

theorem logAll_journal (d : Desk) (entries : List Entry) :
    d.logAll entries = {d with journal := d.journal ++ entries.map .logged} := by
  induction entries generalizing d with
  | nil => simp [logAll]
  | cons e rest ih =>
    have later : d.logAll (e :: rest) = (d.log e).logAll rest := rfl
    rw [later,ih]
    simp [log]

theorem Noted.refl (d : Desk) : d.Noted d := ⟨[],rfl⟩

theorem Noted.one (d : Desk) (e : Entry) : d.Noted (d.log e) := ⟨[e],rfl⟩

theorem Noted.untouched (noted : d.Noted after) : d.Untouched after := by
  obtain ⟨entries,rfl⟩ := noted
  rw [logAll_journal]
  refine ⟨rfl,?_,rfl⟩
  simp [messages,List.filterMap_map,Function.comp_def,Happening.message?]

theorem Noted.unasked (noted : d.Noted after) : d.Unasked after := by
  obtain ⟨entries,rfl⟩ := noted
  rw [logAll_journal]
  refine ⟨rfl,rfl,?_⟩
  simp [requested,List.filterMap_map,Function.comp_def,Happening.request?]

-- A move that is made is written over what was read.
theorem move_writes {m : Move} {o : Order} (moved : (d.move id m).2 = .ok (some o)) : ∃ old announcements storage,
    d.storage.get id = .ok (some old) ∧ o = m.apply d.clock old ∧ d.storage.write o = .ok storage ∧ storage.commit = .ok () ∧
      d.move id m = (announceAll {d with storage} o announcements,.ok (some o)) := by
  unfold move at moved ⊢
  rcases amend_cases d id (m.decide id d.clock) with ⟨fault,made⟩ | ⟨-,found,got,outcome⟩
  · rw [made] at moved
    cases moved
  · rcases m.decide_cases id d.clock found with ⟨entries,kept⟩ | ⟨old,others,rfl,stores⟩
    · rcases outcome with ⟨answer,entries,decided,made⟩ | ⟨_,_,_,_,decided,-⟩
      · rw [made] at moved
        cases kept.symm.trans decided
        cases moved
      · cases kept.symm.trans decided
    · rcases outcome with ⟨answer,entries,decided,-⟩ | ⟨_,_,announcements,storage,decided,written,⟨commit,made⟩ | ⟨fault,-,made⟩⟩
      · cases stores.symm.trans decided
      · cases stores.symm.trans decided
        rw [made] at moved ⊢
        cases moved
        exact ⟨old,others,storage,got,rfl,written,commit,rfl⟩
      · rw [made] at moved
        cases moved

-- Once an order is cancelled, no answer of the runtime takes it back.
theorem stopFlow_done (d : Desk) (id : Json) (o : Order) : (d.stopFlow id o).2 ≠ .ok false := by
  have told (answer : Except Fault Unit) : answer.map (fun _ => true) ≠ .ok false := by
    cases answer <;> simp [Except.map]
  unfold stopFlow
  dsimp only
  split
  · simp
  · exact told _
  · exact told _

theorem Untouched.trans {middle : Desk} (first : d.Untouched middle) (second : middle.Untouched after) : d.Untouched after :=
  ⟨second.storage.trans first.storage,second.messages.trans first.messages,second.notices.trans first.notices⟩

theorem asked_untouched (d : Desk) (cancel : Bool) (flow : Json) :
    d.Untouched {d with requests := d.requests + 1,journal := d.journal ++ [.asked cancel flow]} := by
  refine ⟨rfl,?_,rfl⟩
  simp [messages,Happening.message?]

end

-- New orders. What a runtime that fails would take away is not stored yet.

section
variable {d : Desk} {id : String} {o : Order} {fault : Fault}

theorem answered_absent (sound : d.storage.store.Sound) (absent : d.stored id = none) (reply : Reply) :
    d.answered (.str id) reply = d := by
  unfold answered
  split
  · obtain ⟨found,gone⟩ := Store.delete_absent sound absent
    have same : (d.storage.delete (.str id)).1 = d.storage := by
      rw [Storage.delete,Storage.remove,gone]
      cases d.storage.working .delete <;> rfl
    rw [same]
  · rfl

theorem register_absent (sound : d.storage.store.Sound) (absent : d.stored id = none) (f : Flow) :
    d.Alike (d.register (.str id) f).1 ∧ d.Untouched (d.register (.str id) f).1 := by
  unfold register
  split
  · exact ⟨Alike.refl d,(Noted.refl d).untouched⟩
  · rename_i r running
    have run : d.Untouched {d with runtime := .registry (r.register f)} := ⟨rfl,rfl,rfl⟩
    exact ⟨⟨rfl,rfl,rfl,rfl,rfl⟩,run.trans (Noted.one _ _).untouched⟩
  · rename_i r running
    have asked := asked_untouched d false (.str f.id)
    have kept := answered_absent (d:={d with requests := d.requests + 1,journal := d.journal ++ [.asked false (.str f.id)]})
      sound absent (r.registering d.requests)
    dsimp only
    rw [kept]
    exact ⟨⟨rfl,rfl,rfl,rfl,rfl⟩,asked⟩

theorem registered_absent (named : o.id = .str id) (sound : d.storage.store.Sound) (absent : d.stored id = none) (f : Flow) :
    d.Alike (d.registered o f).1 ∧ d.Untouched (d.registered o f).1 := by
  have asked := register_absent sound absent f
  unfold registered
  rw [named]
  generalize d.register (.str id) f = answered at asked
  obtain ⟨after,reply⟩ := answered
  cases reply with
  | accepted => exact asked
  | refused => exact asked
  | failed message forgets =>
    exact ⟨asked.1.trans (log_alike after _),asked.2.trans (Noted.one after _).untouched⟩

-- All that a creation can come to. Its row may be written and not committed.
theorem create_outcome (sound : d.storage.store.Sound) (absent : d.stored d.nextId.1 = none) (kind params : Json) :
    (∃ creation, (d.create kind params).2 = .ok creation ∧
      d.calmed.create kind params = ((d.create kind params).1.calmed,.ok creation) ∧
        ∃ o storage, d.storage.write o = .ok storage ∧ storage.commit = .ok ()) ∨
    ∃ fault, (d.create kind params).2 = .error fault ∧
      (((d.Alike (d.create kind params).1 ∨ d.nextId.2.Alike (d.create kind params).1) ∧ d.Untouched (d.create kind params).1) ∨
      (d.Uncommitted (d.create kind params).1 d.nextId.1 fault ∧ ∃ told creation,
        d.calmed.create kind params = (told.calmed,.ok creation) ∧ (d.create kind params).1.Alike told)) := by
  have issuing : d.Untouched d.nextId.2 := by
    unfold nextId
    split <;> exact ⟨rfl,rfl,rfl⟩
  unfold create
  cases parsed : Params.parse kind params with
  | error fault => exact Or.inr ⟨fault,rfl,Or.inl ⟨Or.inl (Alike.refl d),(Noted.refl d).untouched⟩⟩
  | ok p =>
    dsimp only
    have same := nextId_same d
    rw [nextId_calmed]
    generalize d.nextId = issued at absent issuing same ⊢
    obtain ⟨id,next⟩ := issued
    dsimp only at absent issuing same ⊢
    have clock : next.calmed.clock = next.clock := rfl
    have settings : next.calmed.settings = next.settings := rfl
    rw [clock,settings]
    cases made : (Order.fresh id p next.clock).flow next.settings.flow next.clock with
    | error fault => exact Or.inr ⟨fault,rfl,Or.inl ⟨Or.inr (Alike.refl next),issuing⟩⟩
    | ok f =>
      dsimp only
      have logged := log_alike next (flowEntry (Order.fresh id p next.clock) f)
      have noted := (Noted.one next (flowEntry (Order.fresh id p next.clock) f)).untouched
      rw [log_calmed]
      generalize next.log (flowEntry (Order.fresh id p next.clock) f) = ledger at logged noted ⊢
      have free : ledger.stored id = none := by
        rw [logged.stored,stored,same.1]
        exact absent
      have held : ledger.storage.store.Sound := by
        rw [logged.storage,same.1]
        exact sound
      obtain ⟨alike,untouched⟩ := registered_absent (o:={Order.fresh id p next.clock with flowId := .str f.id}) rfl held free f
      have whole := issuing.trans (noted.trans untouched)
      rcases accept_cases ledger {Order.fresh id p next.clock with flowId := .str f.id} f with
        ⟨fault,failed⟩ | ⟨final,storage,named,written,calm,⟨commit,accepted⟩ | ⟨fault,commit,failed⟩⟩
      · rw [failed]
        exact Or.inr ⟨fault,rfl,Or.inl ⟨Or.inr (logged.trans alike),whole⟩⟩
      · rw [accepted,calm]
        rw [whole.storage] at written
        exact Or.inl ⟨_,rfl,rfl,final,storage,written,commit⟩
      · rw [failed,calm]
        have row : d.storage.write final = .ok storage := by rwa [whole.storage] at written
        exact Or.inr ⟨fault,rfl,Or.inr ⟨⟨⟨final,named,row⟩,commit,whole.messages,whole.notices⟩,_,_,rfl,
          announceCreation_alike _ final⟩⟩

end

-- What a call does to the desk, by its response, beside what it does with everything in order.
inductive Settled (d : Desk) (id : String) : Desk × Response → Desk × Response → Prop where
  | answered {after : Desk} {response : Response} (succeeds : response.failed = false)
      (refused : response.refused = true → d.Noted after) : Settled d id (after,response) (after.calmed,response)
  | idle {response : Response} {calm : Desk × Response} (kept : response.refused = false) : Settled d id (d,response) calm
  | uncommitted {old o : Order} {storage : Storage} {told : Desk} {fault : Fault} {response answer : Response}
      (kept : response.refused = false) (got : d.storage.get (.str id) = .ok (some old)) (named : o.id = old.id)
      (written : d.storage.write o = .ok storage) (commit : storage.commit = .error fault) (alike : Alike {d with storage} told) :
      Settled d id ({d with storage},response) (told.calmed,answer)

section
variable {d : Desk} {id : String}

end
end Desk
end OrderDesk
