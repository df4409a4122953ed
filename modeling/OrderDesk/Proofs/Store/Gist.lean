import OrderDesk.Proofs.Desk.Decision
import OrderDesk.Proofs.Order.Restore
import OrderDesk.Proofs.Store.Laws

-- Stored orders but for what a cancelled one reports: its error and its last change. Stores that are the same
-- but for this are read, written and listed alike, and a cancelled order that is written once more with an
-- error changes nothing else.
namespace OrderDesk

-- Results that come to the same.
theorem map_alike {x y : Except ε α} {f : α → β} (same : y.map f = x.map f) :
    (∃ fault, x = .error fault ∧ y = .error fault) ∨ ∃ a b, x = .ok a ∧ y = .ok b ∧ f b = f a := by
  cases x with
  | error fault =>
    cases y with
    | error other =>
      cases same
      exact Or.inl ⟨fault,rfl,rfl⟩
    | ok b => cases same
  | ok a =>
    cases y with
    | error other => cases same
    | ok b => exact Or.inr ⟨a,b,rfl,rfl,Except.ok.inj same⟩

namespace Order

-- An order, but of a cancelled one neither its error nor its last change.
def gist (o : Order) : Order := if o.status = .cancelled then {o with error := .null,updatedAt := .origin} else o

section
variable (o : Order)

@[simp] theorem gist_id : o.gist.id = o.id := by unfold gist; split <;> rfl
@[simp] theorem gist_params : o.gist.params = o.params := by unfold gist; split <;> rfl
@[simp] theorem gist_status : o.gist.status = o.status := by unfold gist; split <;> rfl
@[simp] theorem gist_kind : o.gist.kind = o.kind := congrArg Params.kind o.gist_params
@[simp] theorem gist_createdAt : o.gist.createdAt = o.createdAt := by unfold gist; split <;> rfl

end

-- An order that is not cancelled is all there.
theorem gist_live {o p : Order} (same : o.gist = p.gist) (live : o.status ≠ .cancelled) : o = p := by
  have alive : p.status ≠ .cancelled := by rwa [← p.gist_status,← same,o.gist_status]
  rwa [gist,gist,if_neg live,if_neg alive] at same

-- An order that is cancelled, and one that is marked with an error.

def cancelled (o : Order) (now : Timestamp) : Order := {o with status := .cancelled,updatedAt := now}

def flagged (o : Order) (message : String) (now : Timestamp) : Order := {o with error := .str message,updatedAt := now}

theorem Sound.cancelled {o : Order} {id : String} (sound : o.Sound id) (now : Timestamp) : (o.cancelled now).Sound id :=
  ⟨sound.id,sound.flow,sound.error,sound.params⟩

theorem gist_flagged (o : Order) (now earlier later : Timestamp) (message : String) :
    ((o.cancelled now).flagged message later).gist = (o.cancelled earlier).gist := rfl

theorem told_cancelled {o : Order} (legible : o.Moments Timestamp.Legible) (now : Timestamp) :
    (o.cancelled now).told = o.cancelled now.told := by
  have same : (o.cancelled now).told = o.told.cancelled now.told := rfl
  rw [same,told_legible legible]

end Order

namespace Row

-- A row in the same way, with the order that is read from it.
def gist (r : Row) : Row × Except Fault Order :=
  (if r.status = .cancelled then {r with error := none,updatedAt := ""} else r,r.toOrder.map Order.gist)

@[simp] theorem gist_id (r : Row) : r.gist.1.id = r.id := by unfold gist; dsimp only; split <;> rfl
@[simp] theorem gist_createdAt (r : Row) : r.gist.1.createdAt = r.createdAt := by unfold gist; dsimp only; split <;> rfl

-- What is read from a row has the texts of the row.
theorem read_held {r : Row} {id : String} {o : Order} (read : r.toOrder = .ok o) (named : r.id = some id) :
    o.Sound id ∧ o.Moments Timestamp.Legible := by
  obtain ⟨validated,legible⟩ := Order.ofJson_admitted (v:=.obj r.fields) (Timestamp.utc_legible rfl) read
  refine ⟨?_,legible⟩
  simp only [toOrder,Order.ofFields,bind_eq_ok] at read
  obtain ⟨trailing,-,schedule,-,created,-,own,ownText,type,-,-,-,given,-,read⟩ := read
  split at read
  · simp only [bind_eq_ok,pure_ok] at read
    obtain ⟨_,-,params,-,_,-,status,-,updated,-,triggered,-,completed,-,made⟩ := read
    cases made
    have text : Except.ok (ε:=Fault) (Json.optStr r.id) = .ok own := ownText
    have said : Order.given "error" r.fields = .optStr r.error := rfl
    refine ⟨?_,⟨r.flowId,rfl⟩,?_,validated.settled⟩
    · rw [← Except.ok.inj text,named]
      rfl
    · rw [said]
      exact Json.optStr_text r.error
  · cases read

theorem ofOrder_flagged {id flow : String} {o : Order} (sound : o.Sound id) (flowId : o.flowId = .str flow) (message : String)
    (now : Timestamp) : ofOrder (o.flagged message now) = .ok (written id flow (some message) (o.flagged message now)) := by
  rw [ofOrder,Order.flagged,sound.id,flowId]
  rfl

theorem gist_written {id flow : String} {error : Option String} {o : Order} (cancelled : o.status = .cancelled) :
    (written id flow error o).gist =
      ({written id flow none o with updatedAt := ""},(written id flow error o).toOrder.map Order.gist) :=
  Prod.ext (if_pos cancelled) rfl

-- An error is all that tells the rows of a cancelled order apart.
theorem flagged_gist {id flow : String} {error : Option String} {o : Order} (sound : o.Sound id)
    (legible : o.Moments Timestamp.Legible) (flowId : o.flowId = .str flow) (errorText : o.error = .optStr error)
    (now later : Timestamp) (message : String) : (written id flow (some message) ((o.cancelled now.told).flagged message later)).gist =
      (written id flow error (o.cancelled now)).gist := by
  have read := written_read (sound.cancelled now) flowId errorText
  have text : ((o.cancelled now.told).flagged message later).error = .optStr (some message) := rfl
  have again := written_read ((sound.cancelled now.told).flagged message later) flowId text
  have told : ((o.cancelled now.told).flagged message later).told = (o.told.cancelled now.told.told).flagged message later.told := rfl
  rw [Order.told_cancelled legible] at read
  rw [Order.flagged] at told ⊢
  rw [told,Order.told_legible legible] at again
  rw [gist_written rfl,gist_written rfl,read,again]
  exact Prod.ext rfl (congrArg Except.ok (Order.gist_flagged o _ _ _ _))

end Row

namespace Store

def gist : Store → List Order ⊕ List (Row × Except Fault Order)
  | memory orders => .inl (orders.map Order.gist)
  | table rows => .inr (rows.map Row.gist)

theorem hasId_gist (id : Json) : hasId id ∘ Order.gist = hasId id := funext fun o => by simp [hasId]

theorem rowHasId_gist (id : Option String) : (rowHasId id ·.1) ∘ Row.gist = rowHasId id := funext fun r => by simp [rowHasId]

-- A row is read as its gist says.
def told (found : Option (Row × Except Fault Order)) : Except Fault (Option Order) :=
  match found with
  | none => .ok none
  | some g => g.2.map some

theorem table_gist (rows : List Row) (id : String) : ((table rows).get (.str id)).map (Option.map Order.gist) =
    told ((rows.map Row.gist).find? (rowHasId (some id) ·.1)) := by
  rw [List.find?_map,rowHasId_gist]
  simp only [get,columnText,bind_ok]
  cases rows.find? (rowHasId (some id)) with
  | none => rfl
  | some r =>
    simp only [Option.map_some,told,Row.gist]
    cases r.toOrder <;> rfl

theorem memory_gist (orders : List Order) (id : String) : ((memory orders).get (.str id)).map (Option.map Order.gist) =
    .ok ((orders.map Order.gist).find? (hasId (.str id))) := by
  rw [List.find?_map,hasId_gist]
  rfl

theorem replace_gist (o : Order) (orders : List Order) : (replace o orders).map Order.gist = replace o.gist (orders.map Order.gist) := by
  induction orders with
  | nil => rfl
  | cons old rest ih =>
    have same : hasId o.gist.id old.gist = hasId o.id old := by simp [hasId]
    simp only [replace,List.map_cons,same]
    split
    · rfl
    · rw [List.map_cons,ih]

-- What all rows are read as, from the orders that they are read as one by one.
def collected : List (Except Fault Order) → Except Fault (List Order)
  | [] => .ok []
  | read :: rest => do
    let o ← read
    pure (o :: (← collected rest))

theorem ordersOf_gist (rows : List Row) :
    (ordersOf rows).map (List.map Order.gist) = collected ((rows.map Row.gist).map Prod.snd) := by
  induction rows with
  | nil => rfl
  | cons r rest ih =>
    have own : r.gist.2 = r.toOrder.map Order.gist := rfl
    simp only [List.map_cons,ordersOf,collected,own,← ih]
    cases r.toOrder with
    | error fault => rfl
    | ok o => cases ordersOf rest <;> rfl

theorem list_table (rows : List Row) : (table rows).list.map (List.map Order.gist) =
    collected (((rows.map Row.gist).mergeSort fun g h => g.1.createdAt ≤ h.1.createdAt).map Prod.snd) := by
  have sorted : (rows.mergeSort fun a b => a.createdAt ≤ b.createdAt).map Row.gist =
      (rows.map Row.gist).mergeSort fun g h => g.1.createdAt ≤ h.1.createdAt :=
    List.map_mergeSort fun a _ b _ => by rw [Row.gist_createdAt,Row.gist_createdAt]
  rw [list,ordersOf_gist,sorted]

section
variable {s t : Store}

theorem gist_cases (same : t.gist = s.gist) :
    (∃ orders others, s = memory orders ∧ t = memory others ∧ others.map Order.gist = orders.map Order.gist) ∨
      ∃ rows others, s = table rows ∧ t = table others ∧ others.map Row.gist = rows.map Row.gist := by
  cases s with
  | memory orders =>
    cases t with
    | memory others => exact Or.inl ⟨orders,others,rfl,rfl,Sum.inl.inj same⟩
    | table others => cases same
  | table rows =>
    cases t with
    | memory others => cases same
    | table others => exact Or.inr ⟨rows,others,rfl,rfl,Sum.inr.inj same⟩

-- Stores of one gist are read, written and listed alike.

theorem get_gist (same : t.gist = s.gist) (id : String) :
    (t.get (.str id)).map (Option.map Order.gist) = (s.get (.str id)).map (Option.map Order.gist) := by
  rcases gist_cases same with ⟨orders,others,rfl,rfl,alike⟩ | ⟨rows,others,rfl,rfl,alike⟩
  · rw [memory_gist,memory_gist,alike]
  · rw [table_gist,table_gist,alike]

theorem list_gist (same : t.gist = s.gist) : t.list.map (List.map Order.gist) = s.list.map (List.map Order.gist) := by
  rcases gist_cases same with ⟨orders,others,rfl,rfl,alike⟩ | ⟨rows,others,rfl,rfl,alike⟩
  · exact congrArg Except.ok alike
  · rw [list_table,list_table,alike]

theorem others_memory (id : Json) (orders : List Order) :
    (orders.filter (!hasId id ·)).map Order.gist = (orders.map Order.gist).filter (!hasId id ·) := by
  simp [List.filter_map,Function.comp_def,hasId]

theorem others_table (id : Option String) (rows : List Row) :
    (rows.filter (!rowHasId id ·)).map Row.gist = (rows.map Row.gist).filter (!rowHasId id ·.1) := by
  simp [List.filter_map,Function.comp_def,rowHasId]

theorem set_gist (same : t.gist = s.gist) (o : Order) : (t.set o).map gist = (s.set o).map gist := by
  rcases gist_cases same with ⟨orders,others,rfl,rfl,alike⟩ | ⟨rows,others,rfl,rfl,alike⟩
  · simp only [set]
    cases usableId o.id with
    | error fault => rfl
    | ok usable => simp only [Except.map,gist,replace_gist,alike]
  · simp only [set]
    cases Row.ofOrder o with
    | error fault => rfl
    | ok r => simp only [Except.map,gist,List.map_append,others_table,alike]

theorem delete_gist (same : t.gist = s.gist) (id : String) :
    (t.delete (.str id)).map (fun gone => gone.1.gist) = (s.delete (.str id)).map fun gone => gone.1.gist := by
  rcases gist_cases same with ⟨orders,others,rfl,rfl,alike⟩ | ⟨rows,others,rfl,rfl,alike⟩
  · simp only [delete,usableId,Json.isKey,if_true,Except.map,gist,others_memory,alike]
  · simp only [delete,columnText,Except.map,gist,others_table,alike]

end

-- An order that is written once more.

theorem replace_again {o : Order} {id : String} (named : o.id = .str id) (orders : List Order) :
    replace o (replace o orders) = replace o orders := by
  have own : hasId o.id o = true := by rw [named,hasId,named]; exact (sameKey_text _ _).mpr rfl
  induction orders with
  | nil => simp only [replace,own,if_true]
  | cons old rest ih =>
    by_cases same : hasId o.id old = true
    · simp only [replace,same,own,if_true]
    · rw [replace,if_neg same,replace,if_neg same,ih]

theorem table_last {r : Row} {id : String} (named : r.id = some id) (rows : List Row) :
    (table (rows.filter (!rowHasId (some id) ·) ++ [r])).get (.str id) = r.toOrder.map some := by
  have own : rowHasId (some id) r = true := (rowHasId_text id r).mpr named
  have gone : (rows.filter (!rowHasId (some id) ·)).find? (rowHasId (some id)) = none := by simp
  simp only [get,columnText,bind_ok,List.find?_append,gone,Option.none_or,List.find?_cons,own]
  cases r.toOrder <;> rfl

theorem others_again {r : Row} {id : String} (named : r.id = some id) (rows : List Row) :
    (rows.filter (!rowHasId (some id) ·) ++ [r]).filter (!rowHasId (some id) ·) = rows.filter (!rowHasId (some id) ·) := by
  have own : rowHasId (some id) r = true := (rowHasId_text id r).mpr named
  simp [List.filter_append,own]

-- What a store has is found by its id, and a table has what can be written in it again.
def Held (s : Store) (id : String) (o : Order) : Prop :=
  match s with
  | memory _ => o.id = .str id
  | table _ => o.Sound id ∧ o.Moments Timestamp.Legible

theorem get_held {s : Store} {id : String} {o : Order} (got : s.get (.str id) = .ok (some o)) : s.Held id o := by
  cases s with
  | memory orders =>
    have found : orders.find? (hasId (.str id)) = some o := Except.ok.inj got
    have own : hasId (.str id) o = true := List.find?_some found
    exact (sameKey_text _ _).mp own
  | table rows =>
    simp only [get,columnText,bind_ok] at got
    split at got
    · cases got
    · rename_i r found
      obtain ⟨read,taken,same⟩ := bind_eq_ok.mp got
      cases same
      exact Row.read_held taken ((rowHasId_text id r).mp (List.find?_some found))

-- A cancelled order can be read again and be written with an error, and this is all that becomes of it.
theorem cancelled_again {s written : Store} {id : String} {o : Order} {now : Timestamp} (held : s.Held id o)
    (made : s.set (o.cancelled now) = .ok written) (message : String) (later : Timestamp) :
    ∃ noted flagged, written.get (.str id) = .ok (some (o.cancelled noted)) ∧
      written.set ((o.cancelled noted).flagged message later) = .ok flagged ∧ flagged.gist = written.gist := by
  cases s with
  | memory orders =>
    have named : (o.cancelled now).id = .str id := held
    have again : ((o.cancelled now).flagged message later).id = .str id := held
    have usable : usableId (.str id) = .ok () := rfl
    rw [set,named,usable] at made
    cases made
    refine ⟨now,memory (replace ((o.cancelled now).flagged message later) (replace (o.cancelled now) orders)),?_,?_,?_⟩
    · exact congrArg Except.ok (replace_here named orders)
    · rw [set,again,usable]
      rfl
    · have same : ((o.cancelled now).flagged message later).gist = (o.cancelled now).gist := rfl
      have own : (o.cancelled now).gist.id = .str id := (Order.gist_id _).trans named
      simp only [gist,replace_gist,same,replace_again own]
  | table rows =>
    obtain ⟨sound,legible⟩ := held
    obtain ⟨flow,error,flowId,errorText,row⟩ := Row.ofOrder_written (sound.cancelled now)
    have read := Row.written_read (sound.cancelled now) flowId errorText
    have again := Row.ofOrder_flagged (sound.cancelled now.told) flowId message later
    have same := Row.flagged_gist sound legible flowId errorText now later message
    rw [Order.told_cancelled legible] at read
    rw [set,row] at made
    cases made
    refine ⟨now.told,table (rows.filter (!rowHasId (some id) ·) ++
      [.written id flow (some message) ((o.cancelled now.told).flagged message later)]),?_,?_,?_⟩
    · refine (table_last rfl rows).trans ?_
      rw [read]
      rfl
    · rw [set,again]
      exact congrArg (fun others => Except.ok (table (others ++ [_]))) (others_again rfl rows)
    · simp only [gist,List.map_append,List.map_singleton,same]
      rfl

end Store

namespace Storage

def gist (s : Storage) : (List Order ⊕ List (Row × Except Fault Order)) × List (Access × Fault) := ⟨s.store.gist,s.broken⟩

section
variable {s t written : Storage} {id : String} {o : Order} {now : Timestamp}

theorem gist_breaking (same : t.gist = s.gist) (broken : List (Access × Fault)) : gist {t with broken} = gist {s with broken} := by
  have stores : t.store.gist = s.store.gist := congrArg Prod.fst same
  exact Prod.ext stores rfl

theorem gist_working (same : t.gist = s.gist) (access : Access) : t.working access = s.working access := by
  have broken : t.broken = s.broken := congrArg Prod.snd same
  rw [working,working,fault?,fault?,broken]

theorem get_gist (same : t.gist = s.gist) (id : String) :
    (t.get (.str id)).map (Option.map Order.gist) = (s.get (.str id)).map (Option.map Order.gist) := by
  rw [get,get,gist_working same]
  cases s.working .get with
  | error fault => rfl
  | ok ready => exact Store.get_gist (congrArg Prod.fst same) id

theorem list_gist (same : t.gist = s.gist) : t.list.map (List.map Order.gist) = s.list.map (List.map Order.gist) := by
  rw [list,list,gist_working same]
  cases s.working .list with
  | error fault => rfl
  | ok ready => exact Store.list_gist (congrArg Prod.fst same)

theorem gist_backend (same : t.gist = s.gist) : t.store.backend = s.store.backend := by
  rcases Store.gist_cases (congrArg Prod.fst same) with ⟨orders,others,here,there,-⟩ | ⟨rows,others,here,there,-⟩ <;>
    rw [here,there] <;> rfl

theorem write_gist (same : t.gist = s.gist) (o : Order) : (t.write o).map gist = (s.write o).map gist := by
  have broken : t.broken = s.broken := congrArg Prod.snd same
  have stores := Store.set_gist (congrArg Prod.fst same) o
  rw [write,write,gist_working same,printing_same broken (gist_backend same) fun _ => rfl]
  cases s.working .set with
  | error fault => rfl
  | ok works =>
    cases s.printing o with
    | error fault => rfl
    | ok prints =>
      rcases map_alike stores with ⟨fault,here,there⟩ | ⟨x,y,here,there,alike⟩
      · rw [here,there]
        rfl
      · rw [here,there]
        exact congrArg Except.ok (Prod.ext alike broken)

theorem set_gist (same : t.gist = s.gist) (o : Order) :
    ∃ x y answer, s.set o = (x,answer) ∧ t.set o = (y,answer) ∧ y.gist = x.gist := by
  rcases map_alike (write_gist same o) with ⟨fault,here,there⟩ | ⟨x,y,here,there,alike⟩
  · exact ⟨s,t,.error fault,by rw [set,here],by rw [set,there],same⟩
  · have commits : y.commit = x.commit := commit_same (congrArg Prod.snd alike) (gist_backend alike)
    exact ⟨x,y,x.commit,by rw [set,here],by rw [set,there,← commits],alike⟩

theorem delete_gist (same : t.gist = s.gist) (id : String) :
    (t.delete (.str id)).1.gist = (s.delete (.str id)).1.gist := by
  have broken : t.broken = s.broken := congrArg Prod.snd same
  have stores := Store.delete_gist (congrArg Prod.fst same) id
  rw [delete,delete,remove,remove,gist_working same]
  cases s.working .delete with
  | error fault => exact same
  | ok works =>
    rcases map_alike stores with ⟨fault,here,there⟩ | ⟨x,y,here,there,alike⟩
    · rw [here,there]
      exact same
    · rw [here,there]
      exact Prod.ext alike broken

-- What is read is the same, or it is cancelled in both.
theorem gist_reads (same : t.gist = s.gist) (id : String) :
    (∃ fault, s.get (.str id) = .error fault ∧ t.get (.str id) = .error fault) ∨
    (∃ found, s.get (.str id) = .ok found ∧ t.get (.str id) = .ok found) ∨
      ∃ o p, s.get (.str id) = .ok (some o) ∧ t.get (.str id) = .ok (some p) ∧ o.status = .cancelled ∧ p.status = .cancelled := by
  rcases map_alike (get_gist same id) with fault | ⟨found,other,here,there,alike⟩
  · exact Or.inl fault
  · cases found with
    | none =>
      cases Option.map_eq_none_iff.mp alike
      exact Or.inr (Or.inl ⟨none,here,there⟩)
    | some o =>
      obtain ⟨p,rfl,own⟩ := Option.map_eq_some_iff.mp alike
      by_cases cancelled : o.status = .cancelled
      · have both : p.status = .cancelled := by rw [← p.gist_status,own,o.gist_status,cancelled]
        exact Or.inr (Or.inr ⟨o,p,here,there,cancelled,both⟩)
      · cases Order.gist_live own.symm cancelled
        exact Or.inr (Or.inl ⟨some o,here,there⟩)

-- Where an order could be read and be cancelled, it can be read again and be marked.
theorem cancelled_again (got : s.get (.str id) = .ok (some o)) (made : s.set (o.cancelled now) = (written,.ok ())) (message : String)
    (later : Timestamp) : ∃ found flagged, written.get (.str id) = .ok (some found) ∧
      written.set (found.flagged message later) = (flagged,.ok ()) ∧ flagged.gist = written.gist := by
  obtain ⟨_,reads,found⟩ := bind_eq_ok.mp got
  obtain ⟨stored,commits⟩ := set_done.mp made
  obtain ⟨-,-,store,set,rfl⟩ := write_parts.mp stored
  obtain ⟨noted,flagged,held,marked,alike⟩ := Store.cancelled_again (Store.get_held found) set message later
  have again := write_again (p:=(o.cancelled noted).flagged message later) stored (write_same stored) (write_backend stored)
    (fun _ => rfl) marked
  refine ⟨o.cancelled noted,{s with store := flagged},?_,?_,Prod.ext alike rfl⟩
  · exact bind_eq_ok.mpr ⟨_,reads,held⟩
  · exact set_done.mpr ⟨again,(write_commit again).trans commits⟩

end
end Storage
end OrderDesk
