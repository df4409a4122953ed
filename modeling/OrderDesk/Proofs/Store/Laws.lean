import OrderDesk.Proofs.Order.Record
import OrderDesk.Store.Basic

-- What a store does, seen by text ids: setting an order and deleting one change what is found at its id and
-- nothing else, whichever kind of store it is.
namespace OrderDesk

theorem sameKey_text (v : Json) (id : String) : v.sameKey (.str id) = true ↔ v = .str id := by
  cases v <;> simp [Json.sameKey,Json.countable?,Json.number?]

-- Moments that a store gives back as it got them.
def Backend.Keeps : Backend → Timestamp → Prop
  | .memory,_ => True
  | .table,t => t.Legible

namespace Store

def backend : Store → Backend
  | memory _ => .memory
  | table _ => .table

-- Every row can be read.
def Sound : Store → Prop
  | memory _ => True
  | table rows => ∀ r ∈ rows, ∃ o, r.toOrder = .ok o

def find (id : String) : Store → Option Order
  | memory orders => orders.find? (hasId (.str id))
  | table rows => (rows.find? (rowHasId (some id))).bind fun r => r.toOrder.toOption

-- A change at one id.
structure Becomes (before after : Store) (id : String) (found : Option Order) : Prop where
  sound : after.Sound
  backend : after.backend = before.backend
  here : after.find id = found
  elsewhere : ∀ other, other ≠ id → after.find other = before.find other

theorem empty_sound (b : Backend) : (empty b).Sound := by
  cases b <;> simp [empty,Sound]

theorem empty_find (b : Backend) (id : String) : (empty b).find id = none := by
  cases b <;> rfl

theorem get_find {s : Store} (sound : s.Sound) (id : String) : s.get (.str id) = .ok (s.find id) := by
  cases s with
  | memory orders => rfl
  | table rows =>
    simp only [get,columnText,bind_ok,find]
    cases found : rows.find? (rowHasId (some id)) with
    | none => rfl
    | some r =>
      obtain ⟨o,read⟩ := sound r (List.mem_of_find?_eq_some found)
      simp only [read,bind_ok,Option.bind_some]
      rfl

section Memory
variable {id : String} {o : Order} (held : o.id = .str id)
include held

theorem replace_here (orders : List Order) : (replace o orders).find? (hasId (.str id)) = some o := by
  have own : hasId (.str id) o = true := (sameKey_text _ _).mpr held
  induction orders with
  | nil => simp [replace,own]
  | cons old rest ih =>
    rw [replace,held]
    split
    · simp [own]
    · rename_i other
      simp [other,ih]

theorem replace_elsewhere (orders : List Order) (other : String) (differs : other ≠ id) :
    (replace o orders).find? (hasId (.str other)) = orders.find? (hasId (.str other)) := by
  have foreign : hasId (.str other) o = false := by
    rw [Bool.eq_false_iff,ne_eq,hasId,sameKey_text,held]
    simpa using differs.symm
  induction orders with
  | nil => simp [replace,foreign]
  | cons old rest ih =>
    rw [replace,held]
    split
    · rename_i same
      have replaced : hasId (.str other) old = false := by
        have text := (sameKey_text _ _).mp same
        rw [Bool.eq_false_iff,ne_eq,hasId,sameKey_text,text]
        simpa using differs.symm
      simp [foreign,replaced]
    · simp only [List.find?_cons,ih]

end Memory

theorem delete_here (orders : List Order) (id : String) :
    (orders.filter (!hasId (.str id) ·)).find? (hasId (.str id)) = none := by
  simp

theorem delete_elsewhere (orders : List Order) (id other : String) (differs : other ≠ id) :
    (orders.filter (!hasId (.str id) ·)).find? (hasId (.str other)) = orders.find? (hasId (.str other)) := by
  rw [List.find?_filter]
  congr 1
  funext o
  by_cases own : hasId (.str other) o = true
  · have text := (sameKey_text _ _).mp own
    have foreign : hasId (.str id) o = false := by
      rw [Bool.eq_false_iff,ne_eq,hasId,sameKey_text,text]
      simpa using differs
    simp [own,foreign]
  · simp [own]

theorem rowHasId_text (id : String) (r : Row) : rowHasId (some id) r = true ↔ r.id = some id := by
  simp [rowHasId]

theorem rows_elsewhere (rows : List Row) (id other : String) (differs : other ≠ id) :
    (rows.filter (!rowHasId (some id) ·)).find? (rowHasId (some other)) = rows.find? (rowHasId (some other)) := by
  rw [List.find?_filter]
  congr 1
  funext r
  by_cases own : rowHasId (some other) r = true
  · have text := (rowHasId_text _ _).mp own
    have foreign : rowHasId (some id) r = false := by
      rw [Bool.eq_false_iff,ne_eq,rowHasId_text,text]
      simpa using differs
    simp [own,foreign]
  · simp [own]

theorem set_becomes {s : Store} {id : String} {o : Order} (held : s.Sound) (sound : o.Sound id)
    (kept : o.Moments s.backend.Keeps) : ∃ after, s.set o = .ok after ∧ Becomes s after id (some o) := by
  cases s with
  | memory orders =>
    refine ⟨memory (replace o orders),?_,trivial,rfl,replace_here sound.id orders,replace_elsewhere sound.id orders⟩
    simp [set,sound.id,usableId,Json.isKey,Except.map]
  | table rows =>
    obtain ⟨r,made,idText,read⟩ := Row.toOrder_written sound kept
    have own : rowHasId (some id) r = true := (rowHasId_text _ _).mpr idText
    have gone : (rows.filter (!rowHasId (some id) ·)).find? (rowHasId (some id)) = none := by simp
    refine ⟨table (rows.filter (!rowHasId (some id) ·) ++ [r]),?_,?_,rfl,?_,?_⟩
    · simp only [set,made,Except.map,idText]
    · intro row member
      rcases List.mem_append.mp member with old | new
      · exact held row (List.mem_filter.mp old).1
      · rw [List.mem_singleton.mp new]
        exact ⟨o,read⟩
    · simp only [find,List.find?_append,gone,Option.none_or,List.find?_cons,own,Option.bind_some,read]
      rfl
    · intro other differs
      have foreign : rowHasId (some other) r = false := by
        rw [Bool.eq_false_iff,ne_eq,rowHasId_text,idText]
        simpa using differs.symm
      simp only [find,List.find?_append,rows_elsewhere rows id other differs,List.find?_cons,foreign,List.find?_nil,
        Option.or_none]

theorem delete_becomes {s : Store} (held : s.Sound) (id : String) :
    ∃ after found, s.delete (.str id) = .ok (after,found) ∧ Becomes s after id none := by
  cases s with
  | memory orders =>
    exact ⟨memory (orders.filter (!hasId (.str id) ·)),orders.any (hasId (.str id)),rfl,trivial,rfl,
      delete_here orders id,delete_elsewhere orders id⟩
  | table rows =>
    refine ⟨table (rows.filter (!rowHasId (some id) ·)),rows.any (rowHasId (some id)),rfl,?_,rfl,?_,?_⟩
    · intro row member
      exact held row (List.mem_filter.mp member).1
    · have gone : (rows.filter (!rowHasId (some id) ·)).find? (rowHasId (some id)) = none := by simp
      rw [find,gone,Option.bind_none]
    · intro other differs
      simp only [find,rows_elsewhere rows id other differs]

end Store

namespace Storage
section
variable {s after : Storage} {store : Store} {o : Order} {fault : Fault}

theorem write_parts : s.write o = .ok after ↔
    s.working .set = .ok () ∧ s.printing o = .ok () ∧ ∃ store, s.store.set o = .ok store ∧ {s with store} = after := by
  rw [write,bind_eq_ok]
  constructor
  · rintro ⟨_,works,rest⟩
    obtain ⟨_,prints,rest⟩ := bind_eq_ok.mp rest
    obtain ⟨store,written,same⟩ := bind_eq_ok.mp rest
    exact ⟨works,prints,store,written,Except.ok.inj same⟩
  · rintro ⟨works,prints,store,written,rfl⟩
    exact ⟨(),works,bind_eq_ok.mpr ⟨(),prints,bind_eq_ok.mpr ⟨store,written,rfl⟩⟩⟩

-- All that a set can come to: nothing is written, or a row that is committed or not.
theorem set_cases (s : Storage) (o : Order) : (∃ fault, s.write o = .error fault ∧ s.set o = (s,.error fault)) ∨
    ∃ after, s.write o = .ok after ∧ s.set o = (after,after.commit) := by
  unfold set
  cases s.write o with
  | error fault => exact Or.inl ⟨fault,rfl,rfl⟩
  | ok after => exact Or.inr ⟨after,rfl,rfl⟩

theorem set_done : s.set o = (after,.ok ()) ↔ s.write o = .ok after ∧ after.commit = .ok () := by
  rcases set_cases s o with ⟨fault,failed,made⟩ | ⟨written,stored,made⟩
  · rw [made,failed]
    constructor
    · rintro ⟨⟩
    · rintro ⟨⟨⟩,-⟩
  · rw [made,stored]
    constructor
    · intro same
      cases (Prod.mk.inj same).1
      exact ⟨rfl,(Prod.mk.inj same).2⟩
    · rintro ⟨⟨⟩,commits⟩
      rw [commits]

-- What is broken stays broken, whatever is written.
theorem write_same (made : s.write o = .ok after) : after.broken = s.broken := by
  obtain ⟨-,-,store,-,rfl⟩ := write_parts.mp made
  rfl

theorem remove_same {id : Json} {found : Bool} (made : s.remove id = .ok (after,found)) : after.broken = s.broken := by
  obtain ⟨-,-,rest⟩ := bind_eq_ok.mp made
  obtain ⟨result,-,same⟩ := bind_eq_ok.mp rest
  cases same
  rfl

theorem delete_same (s : Storage) (id : Json) : (s.delete id).1.broken = s.broken := by
  unfold delete
  split
  · rfl
  · rename_i removed
    exact remove_same removed

theorem working_same {t : Storage} (broken : t.broken = s.broken) (access : Access) : t.working access = s.working access := by
  rw [working,working,fault?,fault?,broken]

theorem commit_same {t : Storage} (broken : t.broken = s.broken) (backend : t.store.backend = s.store.backend) :
    t.commit = s.commit := by
  rw [commit,commit,working_same broken]
  cases kind : s.store <;> cases other : t.store <;> rw [kind,other] at backend <;> cases backend

-- What is printed of an order decides whether it is.
theorem printing_same {t : Storage} {p : Order} (broken : t.broken = s.broken) (backend : t.store.backend = s.store.backend)
    (prints : ∀ digits, p.within digits = o.within digits) : t.printing p = s.printing o := by
  have refuses : (fun entry : Access × Fault => entry.1.refuses p) = fun entry => entry.1.refuses o := by
    funext entry
    cases entry.1 <;> simp only [Access.refuses,prints]
  rw [printing,printing,broken,refuses]
  cases kind : s.store <;> cases other : t.store <;> rw [kind,other] at backend <;> cases backend

theorem write_backend (made : s.write o = .ok after) : after.store.backend = s.store.backend := by
  obtain ⟨-,-,store,stored,rfl⟩ := write_parts.mp made
  cases kind : s.store with
  | memory orders =>
    rw [kind,Store.set] at stored
    cases usable : Store.usableId o.id <;> rw [usable] at stored <;> cases stored
    rfl
  | table rows =>
    rw [kind,Store.set] at stored
    cases row : Row.ofOrder o <;> rw [row] at stored <;> cases stored
    rfl

theorem write_commit (made : s.write o = .ok after) : after.commit = s.commit :=
  commit_same (write_same made) (write_backend made)

-- Where an order was written, another is written too that prints the same.
theorem write_again {t : Storage} {p : Order} (made : s.write o = .ok after) (broken : t.broken = s.broken)
    (backend : t.store.backend = s.store.backend) (prints : ∀ digits, p.within digits = o.within digits)
    (stored : t.store.set p = .ok store) : t.write p = .ok {t with store} := by
  obtain ⟨works,printed,-⟩ := write_parts.mp made
  exact write_parts.mpr ⟨(working_same broken .set).trans works,(printing_same broken backend prints).trans printed,store,stored,rfl⟩

-- Where nothing is out of order, it is the store that decides.

theorem working_whole (whole : s.broken = []) (access : Access) : s.working access = .ok () := by
  rw [working,fault?,whole]
  rfl

theorem printing_whole (whole : s.broken = []) (o : Order) : s.printing o = .ok () := by
  rw [printing,whole]
  cases s.store <;> rfl

theorem commit_whole (whole : s.broken = []) : s.commit = .ok () := by
  rw [commit]
  split
  · rfl
  · exact working_whole whole .commit

theorem set_whole (whole : s.broken = []) (written : s.store.set o = .ok store) : s.set o = ({s with store},.ok ()) :=
  set_done.mpr ⟨write_parts.mpr ⟨working_whole whole .set,printing_whole whole o,store,written,rfl⟩,commit_whole whole⟩

theorem delete_whole {id : Json} {found : Bool} (whole : s.broken = []) (gone : s.store.delete id = .ok (store,found)) :
    s.delete id = ({s with store},.ok found) := by
  have removed : s.remove id = .ok ({s with store},found) := by
    rw [remove,working_whole whole,bind_ok,gone]
    rfl
  rw [delete,removed]
  dsimp only
  rw [commit_whole (s:={s with store}) whole]
  rfl

end
end Storage
end OrderDesk
