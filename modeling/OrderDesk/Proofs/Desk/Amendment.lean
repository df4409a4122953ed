import OrderDesk.Proofs.Desk.Decision
import OrderDesk.Proofs.Desk.Session

-- What one call does to the records: at most the record of the order it names changes, and in one of a few
-- ways. Notices, log entries and the runtime's own state never reach the store.
namespace OrderDesk
namespace Desk

-- Desks that differ in what was told and asked, not in what is stored.
structure Alike (d after : Desk) : Prop where
  settings : after.settings = d.settings
  storage : after.storage = d.storage
  clock : after.clock = d.clock
  ids : after.ids = d.ids
  made : after.made = d.made

-- Desks that differ in the store too, by what is found at one id.
structure Changes (d after : Desk) (id : String) (found : Option Order) : Prop where
  settings : after.settings = d.settings
  clock : after.clock = d.clock
  ids : after.ids = d.ids
  made : after.made = d.made
  broken : after.storage.broken = d.storage.broken
  store : d.storage.store.Becomes after.storage.store id found

theorem Alike.refl (d : Desk) : d.Alike d := ⟨rfl,rfl,rfl,rfl,rfl⟩

theorem Alike.trans {a b c : Desk} (first : a.Alike b) (second : b.Alike c) : a.Alike c :=
  ⟨second.settings.trans first.settings,second.storage.trans first.storage,second.clock.trans first.clock,
    second.ids.trans first.ids,second.made.trans first.made⟩

theorem Changes.alike {a b c : Desk} {id : String} {found : Option Order} (first : a.Changes b id found)
    (second : b.Alike c) : a.Changes c id found := by
  refine ⟨second.settings.trans first.settings,second.clock.trans first.clock,second.ids.trans first.ids,
    second.made.trans first.made,?_,?_⟩
  · rw [second.storage]
    exact first.broken
  · rw [second.storage]
    exact first.store

theorem Alike.changes {a b c : Desk} {id : String} {found : Option Order} (first : a.Alike b)
    (second : b.Changes c id found) : a.Changes c id found := by
  refine ⟨second.settings.trans first.settings,second.clock.trans first.clock,second.ids.trans first.ids,
    second.made.trans first.made,?_,?_⟩
  · rw [← first.storage]
    exact second.broken
  · rw [← first.storage]
    exact second.store

theorem Changes.again {a b c : Desk} {id : String} {found later : Option Order} (first : a.Changes b id found)
    (second : b.Changes c id later) : a.Changes c id later := by
  refine ⟨second.settings.trans first.settings,second.clock.trans first.clock,second.ids.trans first.ids,
    second.made.trans first.made,second.broken.trans first.broken,second.store.sound,
    second.store.backend.trans first.store.backend,second.store.here,?_⟩
  intro other differs
  exact (second.store.elsewhere other differs).trans (first.store.elsewhere other differs)

theorem log_alike (d : Desk) (e : Entry) : d.Alike (d.log e) := ⟨rfl,rfl,rfl,rfl,rfl⟩

theorem logAll_alike (d : Desk) (entries : List Entry) : d.Alike (d.logAll entries) := by
  induction entries generalizing d with
  | nil => exact Alike.refl d
  | cons e rest ih => exact (log_alike d e).trans (ih (d.log e))

theorem tell_alike (d : Desk) (o : Order) (event : Event) : d.Alike (d.tell o event) := by
  unfold tell
  split
  · exact Alike.refl d
  · split
    · exact log_alike d _
    · split
      · exact Alike.refl d
      · exact log_alike d _
      · exact ⟨rfl,rfl,rfl,rfl,rfl⟩

theorem announceAll_alike (d : Desk) (o : Order) (announcements : List Announcement) :
    d.Alike (d.announceAll o announcements) := by
  induction announcements generalizing d with
  | nil => exact Alike.refl d
  | cons announcement rest ih =>
    have first : d.Alike (announce o d announcement) := by
      cases announcement with
      | entry e => exact log_alike d e
      | notice event => exact tell_alike d o event
    exact first.trans (ih (announce o d announcement))

section
variable {d after : Desk} {visits : List Visit} {id : String} {found : Option Order}

theorem Alike.stored (alike : d.Alike after) (id : String) : after.stored id = d.stored id := by
  rw [Desk.stored,Desk.stored,alike.storage]

theorem Changes.here (changes : d.Changes after id found) : after.stored id = found := changes.store.here

theorem Changes.elsewhere (changes : d.Changes after id found) {other : String} (differs : other ≠ id) :
    after.stored other = d.stored other := changes.store.elsewhere other differs

theorem Alike.ready (alike : d.Alike after) (ready : d.Ready visits) : after.Ready visits := by
  obtain ⟨-,storage,-,ids,made⟩ := alike
  obtain ⟨working,store,clocks,orders,fresh,distinct⟩ := ready
  have places : ∀ k, after.idAt k = d.idAt k := by
    intro k
    rw [idAt,idAt,ids,made]
  refine ⟨?_,?_,?_,?_,?_,?_⟩
  · rwa [storage]
  · rwa [storage]
  · rwa [backend,storage]
  · simpa only [backend,Desk.stored,storage] using orders
  · simpa only [Desk.stored,storage,places] using fresh
  · simpa only [places] using distinct

-- A record may change as long as it stays readable; a new one takes no id that is still to come.
theorem Changes.ready (changes : d.Changes after id found) (ready : d.Ready visits)
    (kept : ∀ o, found = some o → o.Sound id ∧ o.Moments d.backend.Keeps)
    (taken : ∀ k, k < creations visits → d.idAt k = id → found = none) : after.Ready visits := by
  obtain ⟨-,-,ids,made,broken,store⟩ := changes
  obtain ⟨working,held,clocks,orders,fresh,distinct⟩ := ready
  have places : ∀ k, after.idAt k = d.idAt k := by
    intro k
    rw [idAt,idAt,ids,made]
  have same : after.backend = d.backend := store.backend
  refine ⟨broken.trans working,store.sound,?_,?_,?_,?_⟩
  · rwa [same]
  · intro other o stored
    rw [same]
    by_cases named : other = id
    · subst named
      rw [Desk.stored,store.here] at stored
      exact kept o stored
    · rw [Desk.stored,store.elsewhere other named] at stored
      exact orders other o stored
  · intro k bound
    rw [places]
    by_cases named : d.idAt k = id
    · rw [named,Desk.stored,store.here]
      exact taken k bound named
    · rw [Desk.stored,store.elsewhere _ named]
      exact fresh k bound
  · simpa only [places] using distinct

end

section
variable {d : Desk} {visits : List Visit} {id : String} {decide : Option Order → Decision α}

theorem storage_get (ready : d.Ready visits) (id : String) : d.storage.get (.str id) = .ok (d.stored id) :=
  get_stored ready id

theorem storage_set (ready : d.Ready visits) {o : Order} (sound : o.Sound id) (kept : o.Moments d.backend.Keeps) :
    ∃ storage, d.storage.set o = (storage,.ok ()) ∧ storage.broken = d.storage.broken ∧
      d.storage.store.Becomes storage.store id (some o) := by
  obtain ⟨store,written,becomes⟩ := Store.set_becomes ready.store sound kept
  exact ⟨{d.storage with store},Storage.set_whole ready.working written,rfl,becomes⟩

theorem storage_delete (ready : d.Ready visits) (id : String) :
    ∃ storage found, d.storage.delete (.str id) = (storage,.ok found) ∧ storage.broken = d.storage.broken ∧
      d.storage.store.Becomes storage.store id none := by
  obtain ⟨store,found,gone,becomes⟩ := Store.delete_becomes ready.store id
  exact ⟨{d.storage with store},found,Storage.delete_whole ready.working gone,rfl,becomes⟩

theorem amend_fail (ready : d.Ready visits) {fault : Fault} (decided : decide (d.stored id) = .fail fault) :
    d.amend (.str id) decide = (d,.error fault) := by
  simp only [amend,Json.isKey,Bool.not_true,Bool.false_eq_true,if_false,storage_get ready id,decided]

theorem amend_keep (ready : d.Ready visits) {answer : α} {entries : List Entry}
    (decided : decide (d.stored id) = .keep answer entries) :
    d.amend (.str id) decide = (d.logAll entries,.ok answer) := by
  simp only [amend,Json.isKey,Bool.not_true,Bool.false_eq_true,if_false,storage_get ready id,decided]

-- An answer is the decision on what was read.
theorem amend_reads {answer : α} (answered : (d.amend (.str id) decide).2 = .ok answer) :
    ∃ found, d.storage.get (.str id) = .ok found ∧ (decide found).answer? = some answer := by
  simp only [amend,Json.isKey,Bool.not_true,Bool.false_eq_true,if_false] at answered
  cases got : d.storage.get (.str id) with
  | error fault =>
    rw [got] at answered
    cases answered
  | ok found =>
    rw [got] at answered
    refine ⟨found,rfl,?_⟩
    cases decided : decide found with
    | fail fault =>
      simp only [decided] at answered
      cases answered
    | keep own entries =>
      simp only [decided] at answered
      cases answered
      rfl
    | store o own announcements =>
      simp only [decided] at answered
      split at answered
      · cases answered
      · cases answered
        rfl

theorem amend_answer (ready : d.Ready visits) {answer : α} (answered : (d.amend (.str id) decide).2 = .ok answer) :
    (decide (d.stored id)).answer? = some answer := by
  obtain ⟨found,got,decided⟩ := amend_reads answered
  cases (storage_get ready id).symm.trans got
  exact decided

theorem amend_written (ready : d.Ready visits) {o : Order} {answer : α} {announcements : List Announcement} {storage : Storage}
    (decided : decide (d.stored id) = .store o answer announcements) (written : d.storage.set o = (storage,.ok ())) :
    d.amend (.str id) decide = (announceAll {d with storage} o announcements,.ok answer) := by
  simp only [amend,Json.isKey,Bool.not_true,Bool.false_eq_true,if_false,storage_get ready id,decided,written]

-- What is announced is announced when the record is written.
theorem amend_announced (ready : d.Ready visits) {o : Order} {answer : α} {announcements : List Announcement}
    (decided : decide (d.stored id) = .store o answer announcements) (sound : o.Sound id)
    (kept : o.Moments d.backend.Keeps) : ∃ storage,
      d.amend (.str id) decide = (announceAll {d with storage} o announcements,.ok answer) ∧
        d.Changes (announceAll {d with storage} o announcements) id (some o) := by
  obtain ⟨storage,written,broken,becomes⟩ := storage_set ready sound kept
  have changes : d.Changes {d with storage} id (some o) := ⟨rfl,rfl,rfl,rfl,broken,becomes⟩
  exact ⟨storage,amend_written ready decided written,changes.alike (announceAll_alike _ o announcements)⟩

theorem amend_store (ready : d.Ready visits) {o : Order} {answer : α} {announcements : List Announcement}
    (decided : decide (d.stored id) = .store o answer announcements) (sound : o.Sound id)
    (kept : o.Moments d.backend.Keeps) :
    ∃ after, d.amend (.str id) decide = (after,.ok answer) ∧ d.Changes after id (some o) := by
  obtain ⟨storage,written,changes⟩ := amend_announced ready decided sound kept
  exact ⟨_,written,changes⟩

-- A snapshot that is answered is the one that the order was observed with.
theorem prepare_observes {o : Order} {snapshot merged : Snapshot} (ready : d.Ready visits) (stored : d.stored id = some o)
    (answered : (d.prepare (.str id) snapshot).2 = .ok (some merged)) : ∃ after, o.observe snapshot d.clock = .ok (after,merged) := by
  have decided := amend_answer ready answered
  rw [stored] at decided
  exact Tick.decide_answer decided

theorem prepare_answers {snapshot : Snapshot} {answer : Option Snapshot} (ready : d.Ready visits) (present : d.backend.Keeps d.clock)
    (decided : (Tick.decide (.str id) snapshot d.clock (d.stored id)).answer? = some answer) :
    (d.prepare (.str id) snapshot).2 = .ok answer := by
  rcases Tick.decide_cases (.str id) snapshot d.clock (d.stored id) with
    ⟨fault,made⟩ | ⟨own,entries,made⟩ | ⟨o,after,merged,trailing,ended,announcements,held,sees,made⟩
  · rw [made] at decided
    cases decided
  · rw [made] at decided
    cases decided
    rw [prepare,amend_keep ready made]
  · rw [made] at decided
    cases decided
    obtain ⟨sound,moments⟩ := ready.orders id o held
    obtain ⟨stored,written,-⟩ := amend_store ready made (sees.sound sound) (sees.moments moments present)
    rw [prepare,written]

end
end Desk
end OrderDesk
