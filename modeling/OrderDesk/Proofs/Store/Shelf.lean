import OrderDesk.Proofs.Desk.Creation
import OrderDesk.Proofs.Desk.Roster
import OrderDesk.Proofs.Store.Gist
import OrderDesk.Proofs.Store.Twin

-- The orders of a store in their sequence. An order that is set again keeps its place in memory and becomes the
-- last one of a table, and one that is deleted leaves the others as they stand. A table is listed by the text
-- of the creation time first.
namespace OrderDesk

-- What is written over an order is still that order.
structure Order.Redrafts (old o : Order) : Prop where
  lasts : old.Lasts o
  sound : ∀ id, old.Sound id → o.Sound id

-- A row is read with its own id.
theorem Row.read_id {r : Row} {o : Order} (read : r.toOrder = .ok o) : o.id = .optStr r.id := by
  simp only [toOrder,Order.ofFields,bind_eq_ok] at read
  obtain ⟨trailing,-,schedule,-,created,-,own,ownText,type,-,-,-,given,-,read⟩ := read
  have text : Except.ok (ε:=Fault) (Json.optStr r.id) = .ok own := ownText
  split at read
  · simp only [bind_eq_ok,pure_ok] at read
    obtain ⟨_,-,params,-,_,-,status,-,updated,-,triggered,-,completed,-,made⟩ := read
    cases made
    exact (Except.ok.inj text).symm
  · cases read

namespace Store
variable {id : String} {o : Order} {orders : List Order}

def without (id : String) (orders : List Order) : List Order := orders.filter (!hasId (.str id) ·)

theorem without_find (id : String) (orders : List Order) : (without id orders).find? (hasId (.str id)) = none :=
  delete_here orders id

theorem without_again (id : String) (orders : List Order) : without id (without id orders) = without id orders := by
  simp [without,List.filter_filter]

theorem without_distinct (id : String) (distinct : (orders.map Order.id).Nodup) : ((without id orders).map Order.id).Nodup :=
  (List.filter_sublist.map Order.id).nodup distinct

theorem without_self (named : o.id = .str id) (orders : List Order) : without id (o :: orders) = without id orders := by
  have own := (hasId_text id o).mpr named
  simp [without,own]

theorem found_id (found : orders.find? (hasId (.str id)) = some o) : o.id = .str id :=
  (hasId_text id o).mp (List.find?_some found)

-- An order among the others.
theorem find_split {old : Order} (distinct : (orders.map Order.id).Nodup) (found : orders.find? (hasId (.str id)) = some old) :
    ∃ first rest, orders = first ++ old :: rest ∧ without id orders = first ++ rest ∧ old.id = .str id := by
  obtain ⟨own,first,rest,same,before⟩ := List.find?_eq_some_iff_append.mp found
  have named := (hasId_text id old).mp own
  refine ⟨first,rest,same,?_,named⟩
  have later : ∀ p ∈ rest, (!hasId (.str id) p) = true := by
    intro p member
    rw [same,List.map_append,List.map_cons] at distinct
    have apart := (List.nodup_cons.mp distinct.of_append_right).1
    rw [Bool.not_eq_true',Bool.eq_false_iff,ne_eq,hasId_text]
    exact fun equal => apart (named.trans equal.symm ▸ List.mem_map_of_mem member)
  rw [same,without,List.filter_append,List.filter_cons_of_neg (by simpa using own),List.filter_eq_self.mpr before,
    List.filter_eq_self.mpr later]

theorem find_perm {old : Order} (distinct : (orders.map Order.id).Nodup) (found : orders.find? (hasId (.str id)) = some old) :
    orders.Perm (old :: without id orders) := by
  obtain ⟨first,rest,same,others,-⟩ := find_split distinct found
  rw [others,same]
  exact List.perm_middle

-- In memory what is set stands where the one of its id stood.

theorem replace_without (named : o.id = .str id) (orders : List Order) : without id (replace o orders) = without id orders := by
  have own := (hasId_text id o).mpr named
  induction orders with
  | nil => simp [replace,without,own]
  | cons old rest ih =>
    rw [replace,named]
    by_cases same : hasId (.str id) old = true
    · rw [if_pos same,without_self named,without_self ((hasId_text id old).mp same)]
    · rw [if_neg same]
      simp only [without,List.filter_cons] at ih ⊢
      rw [ih]

theorem replace_over {p : Order} (named : o.id = .str id) (there : p.id = .str id) (orders : List Order) :
    replace o (replace p orders) = replace o orders := by
  have own := (hasId_text id p).mpr there
  induction orders with
  | nil => simp [replace,named,own]
  | cons old rest ih =>
    rw [replace,there]
    by_cases same : hasId (.str id) old = true
    · rw [if_pos same,replace,named,if_pos own,replace,named,if_pos same]
    · rw [if_neg same,replace,named,if_neg same,ih,replace,named,if_neg same]

theorem replace_split {old : Order} {first rest : List Order} (named : o.id = .str id) (there : old.id = .str id)
    (before : ∀ p ∈ first, hasId (.str id) p = false) : replace o (first ++ old :: rest) = first ++ o :: rest := by
  have own := (hasId_text id old).mpr there
  induction first with
  | nil => rw [List.nil_append,replace,named,if_pos own,List.nil_append]
  | cons p first ih =>
    obtain ⟨apart,others⟩ := List.forall_mem_cons.mp before
    rw [List.cons_append,replace,named,apart,if_neg Bool.false_ne_true,ih others,List.cons_append]

end Store

namespace Backend
open Store
variable {b : Backend} {id : String} {o p : Order} {orders : List Order}

-- An order as it is read once it is set.
def gives : Backend → Order → Order
  | memory,o => o
  | table,o => o.told

-- The sequence once an order is set.
def place : Backend → Order → List Order → List Order
  | memory,o,orders => replace o orders
  | table,o,orders => orders.filter (!hasId o.id ·) ++ [o]

-- The sequence in which a store lists its orders.
def sequence : Backend → List Order → List Order
  | memory,orders => orders
  | table,orders => orders.mergeSort fun a b => a.createdAt.text ≤ b.createdAt.text

theorem gives_id (b : Backend) (o : Order) : (b.gives o).id = o.id := by
  cases b <;> rfl

theorem place_table (named : o.id = .str id) (orders : List Order) : table.place o orders = without id orders ++ [o] := by
  rw [place,named,without]

theorem place_without (named : o.id = .str id) (b : Backend) (orders : List Order) :
    without id (b.place o orders) = without id orders := by
  cases b with
  | memory => exact replace_without named orders
  | table =>
    have own := (hasId_text id o).mpr named
    rw [place_table named,without,List.filter_append,← without,without_again]
    simp [own]

theorem place_over (named : o.id = .str id) (there : p.id = .str id) (b : Backend) (orders : List Order) :
    b.place o (b.place p orders) = b.place o orders := by
  cases b with
  | memory => exact replace_over named there orders
  | table => rw [place_table named,place_table named,place_without there]

theorem place_find (named : o.id = .str id) (b : Backend) (orders : List Order) :
    (b.place o orders).find? (hasId (.str id)) = some o := by
  cases b with
  | memory => exact replace_here named orders
  | table =>
    have own := (hasId_text id o).mpr named
    rw [place_table named,List.find?_append,without_find]
    simp [own]

theorem place_perm (named : o.id = .str id) (distinct : (orders.map Order.id).Nodup) (b : Backend) :
    (b.place o orders).Perm (o :: without id orders) := by
  cases b with
  | memory => exact replace_perm named distinct
  | table =>
    rw [place_table named]
    exact List.perm_append_singleton _ _

theorem place_distinct (named : o.id = .str id) (distinct : (orders.map Order.id).Nodup) (b : Backend) :
    ((b.place o orders).map Order.id).Nodup := by
  refine ((place_perm named distinct b).map Order.id).nodup_iff.mpr (List.nodup_cons.mpr ⟨?_,?_⟩)
  · intro shared
    obtain ⟨other,member,same⟩ := List.mem_map.mp shared
    have own := (hasId_text id other).mpr (same.trans named)
    have apart := (List.mem_filter.mp member).2
    rw [own] at apart
    cases apart
  · exact without_distinct id distinct

end Backend

namespace Store
variable {s t : Store} {id : String} {o : Order} {orders : List Order} {rows : List Row}

-- The orders of a store, one of each id.
structure Shelved (s : Store) (orders : List Order) : Prop where
  held : s.held = orders.map .ok
  distinct : (orders.map Order.id).Nodup

-- Rows have the creation times of their orders.
def Dated : Store → Prop
  | memory _ => True
  | table rows => ∀ r ∈ rows, ∀ o, r.toOrder = .ok o → r.createdAt = o.createdAt.text

-- The sequence of what is read, by the text of the creation time.
def earlier : Except Fault Order → Except Fault Order → Bool
  | .ok o,.ok p => decide (o.createdAt.text ≤ p.createdAt.text)
  | _,_ => true

theorem held_same {stored : List Order} (held : (memory stored).held = orders.map .ok) : stored = orders :=
  List.map_injective_iff.mpr (fun _ _ => Except.ok.inj) held

theorem rowHasId_order {r : Row} (read : r.toOrder = .ok o) (id : String) : rowHasId (some id) r = hasId (.str id) o := by
  rw [Bool.eq_iff_iff,rowHasId_text,hasId_text,Row.read_id read]
  cases r.id <;> simp [Json.optStr,Json.ofOption]

theorem filter_read (read : rows.map Row.toOrder = orders.map .ok) (id : String) :
    (rows.filter (!rowHasId (some id) ·)).map Row.toOrder = (without id orders).map .ok := by
  induction rows generalizing orders with
  | nil =>
    cases List.map_eq_nil_iff.mp read.symm
    rfl
  | cons r rest ih =>
    obtain ⟨o,others,rfl,own,later⟩ := List.map_eq_cons_iff.mp read.symm
    have same := rowHasId_order own.symm id
    have kept := ih later.symm
    simp only [without,List.filter_cons,same] at kept ⊢
    split
    · rw [List.map_cons,List.map_cons,kept,own]
    · exact kept

theorem find_read (read : rows.map Row.toOrder = orders.map .ok) (id : String) :
    (table rows).find id = orders.find? (hasId (.str id)) := by
  rw [find]
  induction rows generalizing orders with
  | nil =>
    cases List.map_eq_nil_iff.mp read.symm
    rfl
  | cons r rest ih =>
    obtain ⟨o,others,rfl,own,later⟩ := List.map_eq_cons_iff.mp read.symm
    rw [List.find?_cons,List.find?_cons,rowHasId_order own.symm id]
    split
    · rw [Option.bind_some,← own]
      rfl
    · exact ih later.symm

-- What is read at an id is what is found there.
theorem get_finds {found : Option Order} (got : s.get (.str id) = .ok found) : s.find id = found := by
  cases s with
  | memory orders => exact Except.ok.inj got
  | table rows =>
    simp only [get,columnText,bind_ok] at got
    rw [find]
    split at got
    · rename_i absent
      cases got
      rw [absent]
      rfl
    · rename_i r present
      obtain ⟨o,read,same⟩ := bind_eq_ok.mp got
      cases same
      rw [present,Option.bind_some,read]
      rfl

namespace Shelved

theorem finds (shelved : s.Shelved orders) (id : String) : s.find id = orders.find? (hasId (.str id)) := by
  cases s with
  | memory stored =>
    rw [held_same shelved.held]
    rfl
  | table rows => exact find_read shelved.held id

theorem sound (shelved : s.Shelved orders) : s.Sound := by
  cases s with
  | memory stored => trivial
  | table rows =>
    intro r member
    have read : r.toOrder ∈ orders.map .ok := shelved.held ▸ List.mem_map_of_mem member
    obtain ⟨o,-,same⟩ := List.mem_map.mp read
    exact ⟨o,same.symm⟩

theorem listed (shelved : s.Shelved orders) : ∃ listed, s.list = .ok listed ∧ listed.Perm orders := by
  have made : ∃ listed, s.list = .ok listed := by
    cases s with
    | memory stored => exact ⟨stored,rfl⟩
    | table rows =>
      obtain ⟨listed,read,-⟩ := ordersOf_read (rows.mergeSort fun a b => a.createdAt ≤ b.createdAt) fun r member =>
        shelved.sound r ((List.mergeSort_perm rows _).mem_iff.mp member)
      exact ⟨listed,read⟩
  obtain ⟨listed,read⟩ := made
  exact ⟨listed,read,ok_perm (shelved.held ▸ list_held read)⟩

theorem set (shelved : s.Shelved orders) (named : o.id = .str id) (sound : s.backend = .table → o.Sound id)
    (made : s.set o = .ok t) : t.Shelved (s.backend.place (s.backend.gives o) orders) ∧ t.backend = s.backend := by
  have own : (s.backend.gives o).id = .str id := (s.backend.gives_id o).trans named
  cases s with
  | memory stored =>
    rw [Store.set,named] at made
    cases made
    rw [held_same shelved.held]
    exact ⟨⟨rfl,Backend.place_distinct own shelved.distinct .memory⟩,rfl⟩
  | table rows =>
    obtain ⟨flow,error,flowId,errorText,row⟩ := Row.ofOrder_written (sound rfl)
    have read := Row.written_read (sound rfl) flowId errorText
    rw [Store.set,row] at made
    cases made
    refine ⟨⟨?_,Backend.place_distinct own shelved.distinct .table⟩,rfl⟩
    have others := filter_read shelved.held id
    have placed := Backend.place_table (o:=o.told) named orders
    rw [Store.held,List.map_append,List.map_singleton,read]
    refine Eq.trans ?_ (congrArg (List.map Except.ok) placed).symm
    rw [List.map_append,← others]
    rfl

theorem delete {found : Bool} (shelved : s.Shelved orders) (made : s.delete (.str id) = .ok (t,found)) :
    t.Shelved (without id orders) ∧ t.backend = s.backend := by
  have distinct := without_distinct id shelved.distinct
  cases s with
  | memory stored =>
    cases made
    rw [held_same shelved.held]
    exact ⟨⟨rfl,distinct⟩,rfl⟩
  | table rows =>
    cases made
    exact ⟨⟨filter_read shelved.held id,distinct⟩,rfl⟩

-- Rows that have the creation times of their orders are listed by these.
theorem sequenced (shelved : s.Shelved orders) (dated : s.Dated) : s.list = .ok (s.backend.sequence orders) := by
  cases s with
  | memory stored =>
    rw [held_same shelved.held]
    rfl
  | table rows =>
    obtain ⟨listed,read,same⟩ := ordersOf_read (rows.mergeSort fun a b => a.createdAt ≤ b.createdAt) fun r member =>
      shelved.sound r ((List.mergeSort_perm rows _).mem_iff.mp member)
    refine read.trans (congrArg Except.ok ?_)
    -- What is read is sorted as the rows are.
    have rowsRead := List.map_mergeSort (f:=Row.toOrder) (l:=rows) (s:=earlier)
      (r:=fun a b => decide (a.createdAt ≤ b.createdAt)) ?_
    · have ordersRead := List.map_mergeSort (f:=Except.ok (ε:=Fault)) (l:=orders) (s:=earlier)
        (r:=fun a b => decide (a.createdAt.text ≤ b.createdAt.text)) fun _ _ _ _ => by rw [earlier]
      rw [show rows.map Row.toOrder = orders.map .ok from shelved.held,← ordersRead] at rowsRead
      exact List.map_injective_iff.mpr (fun _ _ => Except.ok.inj) (same.trans rowsRead)
    · intro a first b second
      obtain ⟨o,own⟩ := shelved.sound a first
      obtain ⟨p,other⟩ := shelved.sound b second
      rw [own,other,dated a first o own,dated b second p other,earlier]

end Shelved

theorem Dated.set (dated : s.Dated) (sound : s.backend = .table → o.Sound id ∧ o.createdAt.Legible) (made : s.set o = .ok t) :
    t.Dated := by
  cases s with
  | memory stored =>
    rw [Store.set] at made
    cases usable : usableId o.id with
    | error fault =>
      rw [usable] at made
      cases made
    | ok =>
      rw [usable] at made
      cases made
      trivial
  | table rows =>
    obtain ⟨own,legible⟩ := sound rfl
    obtain ⟨flow,error,flowId,errorText,row⟩ := Row.ofOrder_written own
    have read := Row.written_read own flowId errorText
    rw [Store.set,row] at made
    cases made
    intro r member p again
    rcases List.mem_append.mp member with old | new
    · exact dated r (List.mem_filter.mp old).1 p again
    · rw [List.mem_singleton.mp new,read] at again
      cases again
      rw [List.mem_singleton.mp new]
      exact congrArg Timestamp.text (Timestamp.told_legible legible).symm

theorem Dated.delete {found : Bool} (dated : s.Dated) (made : s.delete (.str id) = .ok (t,found)) : t.Dated := by
  cases s with
  | memory stored =>
    cases made
    trivial
  | table rows =>
    cases made
    exact fun r member => dated r (List.mem_filter.mp member).1

end Store
end OrderDesk
