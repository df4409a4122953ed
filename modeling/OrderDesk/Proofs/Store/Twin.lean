import Mathlib.Data.List.Nodup
import OrderDesk.Proofs.Store.Printing

-- Two stores that hold the same orders, one in memory and one as the rows of a table. What is done to both is
-- answered alike, and keeps them so.
namespace OrderDesk
namespace Store

theorem ok_perm {listed orders : List Order}
    (same : (listed.map (Except.ok (ε:=Fault))).Perm (orders.map Except.ok)) : listed.Perm orders := by
  have read := same.filterMap Except.toOption
  simpa [List.filterMap_map,Function.comp_def,Except.toOption] using read

theorem hasId_text (id : String) (o : Order) : hasId (.str id) o = true ↔ o.id = .str id := sameKey_text o.id id

-- Rows that can be read are listed in their sequence.
theorem ordersOf_read (rows : List Row) (sound : ∀ r ∈ rows, ∃ o, r.toOrder = .ok o) :
    ∃ listed, ordersOf rows = .ok listed ∧ listed.map Except.ok = rows.map Row.toOrder := by
  induction rows with
  | nil => exact ⟨[],rfl,rfl⟩
  | cons r rest ih =>
    obtain ⟨o,read⟩ := sound r List.mem_cons_self
    obtain ⟨others,listed,same⟩ := ih fun r member => sound r (List.mem_cons_of_mem _ member)
    refine ⟨o :: others,?_,?_⟩
    · simp only [ordersOf,read,listed,bind_ok,pure_ok]
    · rw [List.map_cons,List.map_cons,read,same]

-- In memory an order takes the place of the one with its id.
theorem replace_perm {orders : List Order} {id : String} {o : Order} (named : o.id = .str id)
    (distinct : (orders.map Order.id).Nodup) : (replace o orders).Perm (o :: orders.filter (!hasId (.str id) ·)) := by
  induction orders with
  | nil => exact .refl _
  | cons old rest ih =>
    obtain ⟨alone,others⟩ := List.nodup_cons.mp distinct
    rw [replace,named]
    by_cases own : hasId (.str id) old = true
    · have absent : rest.filter (!hasId (.str id) ·) = rest := by
        rw [List.filter_eq_self]
        intro other member
        rw [Bool.not_eq_true',Bool.eq_false_iff,ne_eq,hasId_text]
        intro same
        have shared : old.id = other.id := ((hasId_text id old).mp own).trans same.symm
        exact alone (shared ▸ List.mem_map_of_mem member)
      rw [if_pos own,List.filter_cons_of_neg (by simpa using own),absent]
    · rw [if_neg own,List.filter_cons_of_pos (by simpa using own)]
      exact ((ih others).cons old).trans (.swap o old _)

-- The rows are read as the orders, whatever the sequence, and no two orders have one id.
structure Twins (orders : List Order) (rows : List Row) : Prop where
  read : (rows.map Row.toOrder).Perm (orders.map Except.ok)
  named : ∀ r ∈ rows, ∀ o, r.toOrder = .ok o → o.id = .optStr r.id
  kept : ∀ o ∈ orders, ∃ id, o.Sound id ∧ o.Moments Timestamp.Legible
  distinct : (orders.map Order.id).Nodup

namespace Twins
variable {orders : List Order} {rows : List Row} {id : String} {o : Order} {r : Row}

theorem row (twins : Twins orders rows) (member : r ∈ rows) : ∃ o ∈ orders, r.toOrder = .ok o := by
  obtain ⟨o,held,same⟩ := List.mem_map.mp (twins.read.mem_iff.mp (List.mem_map_of_mem member))
  exact ⟨o,held,same.symm⟩

theorem order (twins : Twins orders rows) (member : o ∈ orders) : ∃ r ∈ rows, r.toOrder = .ok o := by
  obtain ⟨r,held,same⟩ := List.mem_map.mp (twins.read.mem_iff.mpr (List.mem_map_of_mem (f:=Except.ok) member))
  exact ⟨r,held,same⟩

theorem sound (twins : Twins orders rows) : (table rows).Sound := by
  intro r member
  obtain ⟨o,-,read⟩ := twins.row member
  exact ⟨o,read⟩

theorem rowHasId_read (twins : Twins orders rows) (member : r ∈ rows) (read : r.toOrder = .ok o) (id : String) :
    rowHasId (some id) r = hasId (.str id) o := by
  rw [Bool.eq_iff_iff,rowHasId_text,hasId_text,twins.named r member o read]
  cases r.id <;> simp [Json.optStr,Json.ofOption]

-- No other order has the id of one that is stored.
theorem find_stored (twins : Twins orders rows) (member : o ∈ orders) (named : o.id = .str id) :
    orders.find? (hasId (.str id)) = some o := by
  have own : hasId (.str id) o = true := (hasId_text id o).mpr named
  obtain ⟨other,found⟩ := Option.isSome_iff_exists.mp (List.find?_isSome.mpr ⟨o,member,own⟩)
  have same : other.id = o.id := ((hasId_text id other).mp (List.find?_some found)).trans named.symm
  rw [found,List.inj_on_of_nodup_map twins.distinct (List.mem_of_find?_eq_some found) member same]

theorem find_same (twins : Twins orders rows) (id : String) : (table rows).find id = (memory orders).find id := by
  rw [find,find]
  cases found : rows.find? (rowHasId (some id)) with
  | none =>
    symm
    rw [Option.bind_none,List.find?_eq_none]
    intro o member own
    obtain ⟨r,held,read⟩ := twins.order member
    rw [← twins.rowHasId_read held read] at own
    exact List.find?_eq_none.mp found r held own
  | some r =>
    have held := List.mem_of_find?_eq_some found
    obtain ⟨o,member,read⟩ := twins.row held
    have own : hasId (.str id) o = true := by
      rw [← twins.rowHasId_read held read]
      exact List.find?_some found
    rw [Option.bind_some,read,twins.find_stored member ((hasId_text id o).mp own)]
    rfl

theorem get_same (twins : Twins orders rows) (id : String) : (table rows).get (.str id) = (memory orders).get (.str id) := by
  rw [get_find twins.sound,get_find (s:=memory orders) trivial,twins.find_same]

theorem filtered (twins : Twins orders rows) (id : String) :
    Twins (orders.filter (!hasId (.str id) ·)) (rows.filter (!rowHasId (some id) ·)) := by
  refine ⟨?_,?_,?_,?_⟩
  · -- Both sides keep what is not read as an order of that id.
    have kept := twins.read.filter fun read => match read with
      | .ok o => !hasId (.str id) o
      | .error _ => true
    rw [List.filter_map,List.filter_map] at kept
    have same : rows.filter (!rowHasId (some id) ·) = rows.filter ((fun read => match read with
        | .ok o => !hasId (.str id) o
        | .error _ => true) ∘ Row.toOrder) := by
      refine List.filter_congr ?_
      intro r member
      obtain ⟨o,-,read⟩ := twins.row member
      rw [Function.comp_apply,read,twins.rowHasId_read member read]
    rw [same]
    exact kept
  · exact fun r member => twins.named r (List.mem_filter.mp member).1
  · exact fun o member => twins.kept o (List.mem_filter.mp member).1
  · exact (List.filter_sublist.map Order.id).nodup twins.distinct

theorem set_twins (twins : Twins orders rows) (sound : o.Sound id) (legible : o.Moments Timestamp.Legible) :
    ∃ after records, (memory orders).set o = .ok (memory after) ∧ (table rows).set o = .ok (table records) ∧
      Twins after records := by
  obtain ⟨r,made,idText,read⟩ := Row.toOrder_written sound legible
  obtain ⟨readOthers,namedOthers,keptOthers,distinctOthers⟩ := twins.filtered id
  have placed := replace_perm sound.id twins.distinct
  have gone : ∀ other ∈ orders.filter (!hasId (.str id) ·), o.id ≠ other.id := by
    intro other member same
    have foreign := (List.mem_filter.mp member).2
    rw [(hasId_text id other).mpr (same.symm.trans sound.id)] at foreign
    cases foreign
  refine ⟨replace o orders,rows.filter (!rowHasId (some id) ·) ++ [r],?_,?_,?_,?_,?_,?_⟩
  · simp [set,sound.id,usableId,Json.isKey,Except.map]
  · simp only [set,made,Except.map,idText]
  · have all := (readOthers.cons (Except.ok o)).trans (placed.map Except.ok).symm
    rw [List.map_append,List.map_singleton,read]
    exact (List.perm_append_singleton _ _).trans all
  · intro row member own same
    rcases List.mem_append.mp member with old | new
    · exact namedOthers row old own same
    · rw [List.mem_singleton.mp new,read] at same
      cases same
      rw [List.mem_singleton.mp new,idText]
      exact sound.id
  · intro own member
    rcases List.mem_cons.mp (placed.mem_iff.mp member) with rfl | old
    · exact ⟨id,sound,legible⟩
    · exact keptOthers own old
  · refine (placed.map Order.id).nodup_iff.mpr (List.nodup_cons.mpr ⟨?_,distinctOthers⟩)
    intro shared
    obtain ⟨other,member,same⟩ := List.mem_map.mp shared
    exact gone other member same.symm

theorem delete_twins (twins : Twins orders rows) (id : String) :
    ∃ after records found, (memory orders).delete (.str id) = .ok (memory after,found) ∧
      (table rows).delete (.str id) = .ok (table records,found) ∧ Twins after records := by
  have found : rows.any (rowHasId (some id)) = orders.any (hasId (.str id)) := by
    rw [Bool.eq_iff_iff,List.any_eq_true,List.any_eq_true]
    constructor
    · rintro ⟨r,member,own⟩
      obtain ⟨o,held,read⟩ := twins.row member
      exact ⟨o,held,by rwa [← twins.rowHasId_read member read]⟩
    · rintro ⟨o,member,own⟩
      obtain ⟨r,held,read⟩ := twins.order member
      exact ⟨r,held,by rwa [twins.rowHasId_read held read]⟩
  refine ⟨_,_,orders.any (hasId (.str id)),rfl,?_,twins.filtered id⟩
  rw [← found]
  rfl

theorem list_twins (twins : Twins orders rows) : ∃ listed, (table rows).list = .ok listed ∧ listed.Perm orders := by
  have sorted := List.mergeSort_perm rows fun a b => a.createdAt ≤ b.createdAt
  obtain ⟨listed,made,same⟩ := ordersOf_read (rows.mergeSort fun a b => a.createdAt ≤ b.createdAt) fun r member =>
    twins.sound r (sorted.mem_iff.mp member)
  refine ⟨listed,made,ok_perm ?_⟩
  rw [same]
  exact (sorted.map Row.toOrder).trans twins.read

end Twins
end Store

-- What an order is like that a table keeps as memory does, and prints after so many executions more.
structure Order.Shared (id : String) (broken : List (Access × Fault)) (room : Nat) (o : Order) : Prop where
  sound : o.Sound id
  legible : o.Moments Timestamp.Legible
  fits : o.Fits broken room

namespace Storage

-- The same kinds of access are out of order in both, the commit not among them. All orders can be printed, also after so many
-- executions more.
structure Twins (broken : List (Access × Fault)) (room : Nat) (a b : Storage) : Prop where
  stores : ∃ orders rows, a.store = .memory orders ∧ b.store = .table rows ∧ Store.Twins orders rows
  here : a.broken = broken
  there : b.broken = broken
  commits : a.working .commit = .ok ()
  roomy : ∀ digits fault, (.print digits,fault) ∈ broken → room < 10 ^ digits
  fits : ∀ id o, a.store.find id = some o → o.Fits broken room

namespace Twins
variable {broken : List (Access × Fault)} {room spare : Nat} {a b : Storage} {id : String} {o : Order}

theorem less (twins : a.Twins broken room b) (less : spare ≤ room) : a.Twins broken spare b :=
  ⟨twins.stores,twins.here,twins.there,twins.commits,fun digits fault member => Nat.lt_of_le_of_lt less (twins.roomy digits fault member),
    fun id o held digits fault member => (twins.fits id o held digits fault member).less less⟩

theorem working_same (twins : a.Twins broken room b) (access : Access) : b.working access = a.working access :=
  Storage.working_same (twins.there.trans twins.here.symm) access

theorem get_same (twins : a.Twins broken room b) (id : String) : b.get (.str id) = a.get (.str id) := by
  obtain ⟨orders,rows,first,second,same⟩ := twins.stores
  rw [get,get,twins.working_same,first,second,same.get_same]

theorem find_same (twins : a.Twins broken room b) (id : String) : b.store.find id = a.store.find id := by
  obtain ⟨orders,rows,first,second,same⟩ := twins.stores
  rw [first,second,same.find_same]

theorem found (twins : a.Twins broken room b) (got : a.get (.str id) = .ok (some o)) : o.Shared id broken room := by
  obtain ⟨orders,rows,first,-,same⟩ := twins.stores
  obtain ⟨-,-,found⟩ := bind_eq_ok.mp got
  rw [first,Store.get_find (s:=.memory orders) trivial] at found
  have listed : orders.find? (Store.hasId (.str id)) = some o := Except.ok.inj found
  obtain ⟨own,sound,legible⟩ := same.kept o (List.mem_of_find?_eq_some listed)
  have named := (Store.hasId_text id o).mp (List.find?_some listed)
  cases named.symm.trans sound.id
  exact ⟨sound,legible,twins.fits id o (by rw [first]; exact listed)⟩

-- What follows a change at one id of both.
theorem becomes {orders after : List Order} {records : List Row} {found : Option Order} (twins : a.Twins broken room b)
    (first : a.store = .memory orders) (kept : Store.Twins after records)
    (changes : Store.Becomes (.memory orders) (.memory after) id found) (fits : ∀ o, found = some o → o.Fits broken room) :
    Twins broken room {a with store := .memory after} {b with store := .table records} := by
  refine ⟨⟨after,records,rfl,rfl,kept⟩,twins.here,twins.there,twins.commits,twins.roomy,?_⟩
  intro other o held
  by_cases same : other = id
  · subst same
    exact fits o (changes.here.symm.trans held)
  · refine twins.fits other o ?_
    rw [first,← changes.elsewhere other same]
    exact held

theorem set_twins (twins : a.Twins broken room b) (shared : o.Shared id broken room) :
    (∃ fault, a.set o = (a,.error fault) ∧ b.set o = (b,.error fault)) ∨
      ∃ x y, a.set o = (x,.ok ()) ∧ b.set o = (y,.ok ()) ∧ x.Twins broken room y := by
  obtain ⟨orders,rows,first,second,same⟩ := twins.stores
  obtain ⟨after,records,here,there,kept⟩ := same.set_twins shared.sound shared.legible
  cases works : a.working .set with
  | error fault =>
    refine Or.inl ⟨fault,?_,?_⟩
    · rw [set,write,works]
      rfl
    · rw [set,write,twins.working_same,works]
      rfl
  | ok ready =>
    have printed : b.printing o = .ok () := printing_fits (twins.there.symm ▸ shared.fits)
    have memory : a.printing o = .ok () := printing_fits (twins.here.symm ▸ shared.fits)
    obtain ⟨made,written,becomes⟩ := Store.set_becomes (s:=.memory orders) trivial shared.sound 
      ⟨trivial,trivial,fun _ _ => trivial,fun _ _ => trivial,fun _ _ => ⟨fun _ _ => trivial,fun _ _ => trivial⟩⟩
    cases here.symm.trans written
    refine Or.inr ⟨{a with store := .memory after},{b with store := .table records},?_,?_,
      twins.becomes first kept becomes fun _ same => Option.some.inj same ▸ shared.fits⟩
    · exact set_done.mpr ⟨write_parts.mpr ⟨works,memory,_,first ▸ here,rfl⟩,rfl⟩
    · exact set_done.mpr ⟨write_parts.mpr ⟨(twins.working_same .set).trans works,printed,_,second ▸ there,rfl⟩,
        (twins.working_same .commit).trans twins.commits⟩

theorem delete_twins (twins : a.Twins broken room b) (id : String) : (a.delete (.str id)).1.Twins broken room (b.delete (.str id)).1 := by
  obtain ⟨orders,rows,first,second,same⟩ := twins.stores
  obtain ⟨after,records,gone,here,there,kept⟩ := same.delete_twins id
  obtain ⟨made,found,deleted,becomes⟩ := Store.delete_becomes (s:=.memory orders) trivial id
  cases here.symm.trans deleted
  have here : a.remove (.str id) = (a.working .delete).map fun _ => ({a with store := .memory after},gone) := by
    rw [remove,first,here]
    cases a.working .delete <;> rfl
  have there : b.remove (.str id) = (a.working .delete).map fun _ => ({b with store := .table records},gone) := by
    rw [remove,second,there,twins.working_same]
    cases a.working .delete <;> rfl
  have twinned := twins.becomes first kept becomes (by rintro o ⟨⟩)
  rw [delete,delete,here,there]
  cases a.working .delete with
  | error fault => exact twins
  | ok ready => exact twinned

theorem list_twins (twins : a.Twins broken room b) : (∃ fault, a.list = .error fault ∧ b.list = .error fault) ∨
    ∃ listed others, a.list = .ok listed ∧ b.list = .ok others ∧ others.Perm listed ∧ listed.Nodup ∧
      ∀ o ∈ listed, ∃ id, a.store.find id = some o := by
  obtain ⟨orders,rows,first,second,same⟩ := twins.stores
  obtain ⟨others,made,permuted⟩ := same.list_twins
  have stored : ∀ o ∈ orders, ∃ id, a.store.find id = some o := by
    intro o member
    obtain ⟨id,sound,-⟩ := same.kept o member
    rw [first]
    exact ⟨id,same.find_stored member sound.id⟩
  rw [list,list,twins.working_same,second,made]
  cases a.working .list with
  | error fault => exact Or.inl ⟨fault,rfl,rfl⟩
  | ok ready => exact Or.inr ⟨orders,others,by rw [first]; rfl,rfl,permuted,same.distinct.of_map Order.id,stored⟩

end Twins
end Storage
end OrderDesk
