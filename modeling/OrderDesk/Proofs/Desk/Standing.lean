import OrderDesk.Proofs.Desk.Filing
import OrderDesk.Proofs.Desk.Renewal

-- Where an order stands in the whole listing once it is written again. In memory it stands where it stood. A
-- table makes it the last of its rows, so it falls behind all orders of its own creation time, and behind no
-- others.
namespace OrderDesk

namespace Timestamp
variable {a b : Timestamp}

theorem text_legible (first : a.Legible) (second : b.Legible) (same : a.text = b.text) : a = b := by
  have read := Iso.read_text a
  rw [same,Iso.read_text b,told_legible first,told_legible second] at read
  exact (Except.ok.inj read).symm

-- The later moment comes first, and of one moment the text that is less.
def Ahead (a b : Timestamp) : Prop := b.instant < a.instant ∨ b.instant = a.instant ∧ a.text ≤ b.text

theorem Ahead.equal (before : a.Ahead b) (after : b.Ahead a) (first : a.Legible) (second : b.Legible) : a = b := by
  rcases before with later | ⟨same,less⟩
  · rcases after with earlier | ⟨same,-⟩
    · exact absurd earlier (Int.not_lt.mpr (Int.le_of_lt later))
    · exact absurd later (Int.not_lt.mpr (Int.le_of_eq same))
  · rcases after with earlier | ⟨-,more⟩
    · exact absurd earlier (Int.not_lt.mpr (Int.le_of_eq same))
    · exact text_legible first second (String.le_antisymm less more)

end Timestamp

-- The sequence of a listing of a table.
structure Stands (orders listed : List Order) : Prop where
  asked : listed.Perm orders
  falls : (listed.map Order.createdAt).Pairwise Timestamp.Ahead
  ties : ∀ moment, listed.filter (fun o => o.createdAt = moment) = orders.filter fun o => o.createdAt = moment

-- A listing of a table before and after an order is written: it falls behind the orders of its own creation time.
structure Falls (o p : Order) (newer tied older listed others : List Order) : Prop where
  before : listed = newer ++ o :: (tied ++ older)
  after : others = newer ++ (tied ++ p :: older)
  level : ∀ t ∈ tied, t.createdAt = o.createdAt
  apart : ∀ t ∈ older, t.createdAt ≠ o.createdAt
  still : others.map Order.id = listed.map Order.id ↔ tied = []

-- What comes before all else in a list stands at its start.
theorem leading_split {p : α → Prop} {xs : List α} (before : xs.Pairwise fun x y => p y → p x) :
    ∃ own others, xs = own ++ others ∧ (∀ x ∈ own, p x) ∧ ∀ x ∈ others, ¬ p x := by
  induction xs with
  | nil => exact ⟨[],[],rfl,by simp,by simp⟩
  | cons x rest ih =>
    obtain ⟨first,later⟩ := List.pairwise_cons.mp before
    by_cases here : p x
    · obtain ⟨own,others,rfl,all,none⟩ := ih later
      exact ⟨x :: own,others,rfl,List.forall_mem_cons.mpr ⟨here,all⟩,none⟩
    · exact ⟨[],x :: rest,rfl,by simp,List.forall_mem_cons.mpr ⟨here,fun y member other => here (first y member other)⟩⟩

theorem map_shift {f : α → β} {c : β} {xs : List α} (level : ∀ x ∈ xs, f x = c) (rest : List β) :
    xs.map f ++ c :: rest = c :: (xs.map f ++ rest) := by
  induction xs with
  | nil => rfl
  | cons x xs ih =>
    obtain ⟨own,others⟩ := List.forall_mem_cons.mp level
    rw [List.map_cons,List.cons_append,ih others,own,List.cons_append]

-- What falls behind others of another value is seen to fall.
theorem shift_same {f : α → β} {newer tied older : List α} {x y : α} (same : f y = f x)
    (distinct : ((newer ++ x :: (tied ++ older)).map f).Nodup) :
    (newer ++ (tied ++ y :: older)).map f = (newer ++ x :: (tied ++ older)).map f ↔ tied = [] := by
  cases tied with
  | nil => simp [same]
  | cons t tied =>
    simp only [reduceCtorEq,iff_false]
    intro still
    simp only [List.map_append,List.map_cons,List.cons_append,List.append_cancel_left_eq,List.cons.injEq] at still
    rw [List.map_append,List.map_cons,List.cons_append,List.map_cons,← still.1] at distinct
    exact (List.nodup_cons.mp distinct.of_append_right).1 List.mem_cons_self

theorem Falls.pair {o p q : Order} {newer tied older others : List Order} (falls : Falls o p newer tied older [o,q] others)
    (level : q.createdAt = o.createdAt) (apart : o.id ≠ q.id) : others = [q,p] := by
  rw [falls.after]
  cases newer with
  | nil =>
    rcases List.append_eq_singleton_iff.mp (List.cons.inj falls.before).2.symm with ⟨-,rfl⟩ | ⟨rfl,rfl⟩
    · exact absurd level (falls.apart q List.mem_cons_self)
    · rfl
  | cons x newer =>
    have member : o ∈ [q] := (List.cons.inj falls.before).2 ▸ by simp
    exact absurd (congrArg Order.id (List.mem_singleton.mp member)) apart

namespace Stands
variable {orders listed other : List Order}

theorem only (stands : Stands orders listed) (again : Stands orders other) (legible : ∀ o ∈ orders, o.createdAt.Legible) :
    other = listed := by
  refine ties_equal ?_ fun moment => (again.ties moment).trans (stands.ties moment).symm
  have permuted := (again.asked.trans stands.asked.symm).map Order.createdAt
  refine permuted.eq_of_pairwise (fun a b first second before after => ?_) again.falls stands.falls
  obtain ⟨o,held,rfl⟩ := List.mem_map.mp first
  obtain ⟨p,there,rfl⟩ := List.mem_map.mp second
  exact before.equal after (legible o (again.asked.mem_iff.mp held)) (legible p (stands.asked.mem_iff.mp there))

-- Nothing else stands between two orders of one creation time.
theorem splits {old : Order} {first rest : List Order} (stands : Stands (first ++ old :: rest) listed)
    (legible : ∀ o ∈ first ++ old :: rest, o.createdAt.Legible) :
    ∃ newer tied older, listed = newer ++ old :: (tied ++ older) ∧
      newer.filter (fun o => o.createdAt = old.createdAt) = first.filter (fun o => o.createdAt = old.createdAt) ∧
      tied = rest.filter (fun o => o.createdAt = old.createdAt) ∧ ∀ t ∈ older, t.createdAt ≠ old.createdAt := by
  have own := stands.ties old.createdAt
  rw [List.filter_append,List.filter_cons_of_pos (by simp)] at own
  obtain ⟨front,back,rfl,before,after⟩ := List.filter_eq_append_iff.mp own
  obtain ⟨apart,behind,rfl,none,-,ties⟩ := List.filter_eq_cons_iff.mp after
  have falls := stands.falls
  rw [List.map_append,List.map_append,List.map_cons] at falls
  obtain ⟨start,later⟩ := List.pairwise_cons.mp (List.pairwise_append.mp (List.pairwise_append.mp falls).2.1).2.1
  have held : ∀ o ∈ behind, o.createdAt.Legible := fun o member => legible o (stands.asked.mem_iff.mp (by simp [member]))
  have leading : behind.Pairwise fun x y => y.createdAt = old.createdAt → x.createdAt = old.createdAt := by
    refine List.Pairwise.imp_of_mem (fun {x y} first second falls same => ?_) (List.pairwise_map.mp later)
    rw [same] at falls
    exact falls.equal (start x.createdAt (List.mem_map_of_mem first)) (held x first) (legible old (by simp))
  obtain ⟨tied,older,rfl,level,others⟩ := leading_split leading
  have gap : apart.filter (fun o => o.createdAt = old.createdAt) = [] := List.filter_eq_nil_iff.mpr none
  have all : tied.filter (fun o => o.createdAt = old.createdAt) = tied :=
    List.filter_eq_self.mpr fun t member => decide_eq_true (level t member)
  have last : older.filter (fun o => o.createdAt = old.createdAt) = [] :=
    List.filter_eq_nil_iff.mpr fun t member => by simpa using others t member
  refine ⟨front ++ apart,tied,older,by simp,?_,?_,others⟩
  · rw [List.filter_append,before,gap,List.append_nil]
  · rw [← ties,List.filter_append,all,last,List.append_nil]

-- The order that is put last falls behind its ties.
theorem moved {old o : Order} {first rest : List Order} (stands : Stands (first ++ old :: rest) listed)
    (created : o.createdAt = old.createdAt) (legible : ∀ o ∈ first ++ old :: rest, o.createdAt.Legible) :
    ∃ newer tied older, listed = newer ++ old :: (tied ++ older) ∧ (∀ t ∈ tied, t.createdAt = old.createdAt) ∧
      (∀ t ∈ older, t.createdAt ≠ old.createdAt) ∧ Stands (first ++ rest ++ [o]) (newer ++ (tied ++ o :: older)) := by
  obtain ⟨newer,tied,older,rfl,before,ties,apart⟩ := stands.splits legible
  have level : ∀ t ∈ tied, t.createdAt = old.createdAt := by
    intro t member
    rw [ties] at member
    exact of_decide_eq_true (List.mem_filter.mp member).2
  refine ⟨newer,tied,older,rfl,level,apart,?_,?_,fun moment => ?_⟩
  · have kept : (newer ++ (tied ++ older)).Perm (first ++ rest) :=
      (List.perm_middle.symm.trans (stands.asked.trans List.perm_middle)).cons_inv
    rw [← List.append_assoc] at kept ⊢
    exact List.perm_middle.trans ((kept.cons o).trans (List.perm_append_singleton o _).symm)
  · simpa [created,map_shift level] using stands.falls
  · by_cases same : moment = old.createdAt
    · subst same
      have last : older.filter (fun o => o.createdAt = old.createdAt) = [] :=
        List.filter_eq_nil_iff.mpr fun t member => by simpa using apart t member
      simp [created,before,last,ties]
    · have others := stands.ties moment
      simpa [created,Ne.symm same] using others

end Stands

-- What of an order decides its place in a listing, beside its id.
def Order.slot (o : Order) : Json × Timestamp := (o.id,o.createdAt)

theorem allComparable_times {orders others : List Order} (times : (others.map Order.createdAt).Perm (orders.map Order.createdAt)) :
    allComparable others = allComparable orders := by
  have told (orders : List Order) : allComparable orders = true ↔
      ∀ a ∈ orders.map Order.createdAt, ∀ b ∈ orders.map Order.createdAt, a.comparable b = true := by
    simp only [allComparable_iff,List.forall_mem_map]
  rw [Bool.eq_iff_iff,told,told]
  simp only [times.mem_iff]

-- Orders that stand in the same slots are listed in one sequence.
theorem newestFirst_slots {orders others : List Order} (same : others.map Order.slot = orders.map Order.slot) :
    (newestFirst others).map (List.map Order.id) = (newestFirst orders).map (List.map Order.id) := by
  have times : others.map Order.createdAt = orders.map Order.createdAt := by
    have later := congrArg (List.map Prod.snd) same
    rwa [List.map_map,List.map_map] at later
  have sorted (orders : List Order) := List.map_mergeSort (f:=Order.slot) (l:=orders)
    (r:=fun a b => decide (b.createdAt.instant ≤ a.createdAt.instant))
    (s:=fun a b => decide (b.2.instant ≤ a.2.instant)) fun _ _ _ _ => rfl
  have ids := congrArg (List.map Prod.fst) ((sorted others).trans (same ▸ (sorted orders).symm))
  rw [List.map_map,List.map_map] at ids
  rw [newestFirst,newestFirst,allComparable_times (.of_eq times)]
  cases allComparable orders with
  | false => rfl
  | true => exact congrArg Except.ok ids

namespace Backend

theorem sequence_perm (b : Backend) (orders : List Order) : (b.sequence orders).Perm orders := by
  cases b with
  | memory => exact .refl _
  | table => exact List.mergeSort_perm _ _

end Backend

theorem text_trans (a b c : Order) (first : decide (a.createdAt.text ≤ b.createdAt.text) = true)
    (second : decide (b.createdAt.text ≤ c.createdAt.text) = true) : decide (a.createdAt.text ≤ c.createdAt.text) = true := by
  rw [decide_eq_true_iff] at first second ⊢
  exact String.le_trans first second

theorem text_total (a b : Order) : (decide (a.createdAt.text ≤ b.createdAt.text) ||
    decide (b.createdAt.text ≤ a.createdAt.text)) = true := by
  rw [Bool.or_eq_true,decide_eq_true_iff,decide_eq_true_iff]
  exact String.le_total a.createdAt.text b.createdAt.text

-- A table is sorted by its texts, and then by the moments.
theorem newestFirst_stands {orders listed : List Order} (made : newestFirst (Backend.table.sequence orders) = .ok listed) :
    Stands orders listed := by
  have texts := List.pairwise_mergeSort text_trans text_total orders
  rw [newestFirst] at made
  split at made
  · cases made
    refine ⟨(List.mergeSort_perm _ _).trans (Backend.table.sequence_perm orders),?_,fun moment => ?_⟩
    · rw [List.pairwise_map,List.pairwise_iff_forall_sublist]
      intro a b pair
      have falls := List.pairwise_iff_forall_sublist.mp (List.pairwise_map.mp (newer_falls (Backend.table.sequence orders))) pair
      rcases Int.lt_or_eq_of_le falls with later | same
      · exact Or.inl later
      · -- Of one moment they stand as their texts do.
        have level := pair.filter fun o => decide (o.born = a.born)
        rw [newer_ties,List.filter_cons_of_pos (by simp),List.filter_cons_of_pos (by simpa using same)] at level
        have before := List.pairwise_iff_forall_sublist.mp texts (level.trans List.filter_sublist)
        exact Or.inr ⟨same,of_decide_eq_true before⟩
    · have level (a b : Order) (first : decide (a.createdAt = moment) = true) (second : decide (b.createdAt = moment) = true) :
          a.createdAt = b.createdAt := (of_decide_eq_true first).trans (of_decide_eq_true second).symm
      have newer := sort_ties newer_trans newer_total fun a b first second =>
        decide_eq_true (Int.le_of_eq (congrArg Timestamp.instant (level b a second first)))
      have earlier := sort_ties text_trans text_total fun a b first second =>
        decide_eq_true (level a b first second ▸ String.le_refl _)
      exact (newer _).trans (earlier orders)
  · cases made

-- Orders of one creation time are listed as they are stored.
theorem newestFirst_level (b : Backend) {orders : List Order} {moment : Timestamp} (level : ∀ o ∈ orders, o.createdAt = moment) :
    newestFirst (b.sequence orders) = .ok orders := by
  have sorted {le : Order → Order → Bool} (same : ∀ a b, a.createdAt = b.createdAt → le a b = true) : orders.mergeSort le = orders :=
    List.mergeSort_of_pairwise (List.pairwise_of_forall_mem_list fun a first b second =>
      same a b ((level a first).trans (level b second).symm))
  have sequence : b.sequence orders = orders := by
    cases b with
    | memory => rfl
    | table => exact sorted fun a b same => decide_eq_true (same ▸ String.le_refl _)
  have alike : allComparable orders = true := by
    refine allComparable_iff.mpr fun a first b second => ?_
    rw [level a first,level b second,Timestamp.comparable,beq_self_eq_true]
  rw [sequence,newestFirst,if_pos alike]
  exact congrArg Except.ok (sorted fun a b same => decide_eq_true (Int.le_of_eq (congrArg Timestamp.instant same.symm)))

-- What a table holds has legible creation times.
theorem Store.Shelved.legible {s : Store} {orders : List Order} (shelved : s.Shelved orders) (table : s.backend = .table) :
    ∀ o ∈ orders, o.createdAt.Legible := by
  intro o member
  cases s with
  | memory stored => cases table
  | table rows =>
    have read : Except.ok o ∈ (Store.table rows).held := shelved.held ▸ List.mem_map_of_mem member
    obtain ⟨r,-,same⟩ := List.mem_map.mp read
    exact (Order.ofJson_admitted (v:=.obj r.fields) (Timestamp.utc_legible rfl) same).2.createdAt

namespace Filed
variable {id : String} {orders after : List Order} {wrote : Bool} {p : Order}

-- In memory each order has the slot that it had.
theorem slots (filed : Filed .memory id orders wrote after) (present : after.find? (Store.hasId (.str id)) = some p) :
    after.map Order.slot = orders.map Order.slot := by
  cases filed with
  | kept => rfl
  | @placed old o held lasts =>
    obtain ⟨own,first,rest,rfl,before⟩ := List.find?_eq_some_iff_append.mp held
    have there := (Store.hasId_text id old).mp own
    have placed : Backend.memory.place o (first ++ old :: rest) = first ++ o :: rest :=
      Store.replace_split (lasts.id.trans there) there fun p member => by simpa using before p member
    have slot : o.slot = old.slot := Prod.ext lasts.id lasts.createdAt
    rw [placed,List.map_append,List.map_append,List.map_cons,List.map_cons,slot]
  | gone =>
    rw [Store.without_find] at present
    cases present

-- A table puts it behind all others.
theorem last {o : Order} (filed : Filed .table id orders true after) (distinct : (orders.map Order.id).Nodup)
    (held : orders.find? (Store.hasId (.str id)) = some o) (present : after.find? (Store.hasId (.str id)) = some p) :
    ∃ first rest, orders = first ++ o :: rest ∧ after = first ++ rest ++ [p] := by
  obtain ⟨first,rest,same,others,own⟩ := Store.find_split distinct held
  cases filed with
  | @placed old q found lasts =>
    cases held.symm.trans found
    have placed : q.id = .str id := lasts.id.trans own
    rw [Backend.place_find placed] at present
    cases present
    exact ⟨first,rest,same,by rw [Backend.place_table placed,others]⟩
  | gone =>
    rw [Store.without_find] at present
    cases present

theorem falls {o : Order} (filed : Filed .table id orders true after) (distinct : (orders.map Order.id).Nodup)
    (held : orders.find? (Store.hasId (.str id)) = some o) (present : after.find? (Store.hasId (.str id)) = some p)
    (legible : ∀ o ∈ orders, o.createdAt.Legible) (later : ∀ o ∈ after, o.createdAt.Legible) :
    (newestFirst (Backend.table.sequence orders) = .error .wrongKind ∧
        newestFirst (Backend.table.sequence after) = .error .wrongKind) ∨
      ∃ newer tied older listed others, newestFirst (Backend.table.sequence orders) = .ok listed ∧
        newestFirst (Backend.table.sequence after) = .ok others ∧ Falls o p newer tied older listed others := by
  have lasts := filed.lasts held present
  obtain ⟨first,rest,rfl,rfl⟩ := filed.last distinct held present
  have times : ((first ++ rest ++ [p]).map Order.createdAt).Perm ((first ++ o :: rest).map Order.createdAt) := by
    rw [List.map_append,List.map_append,List.map_append,List.map_singleton,List.map_cons,lasts.createdAt]
    exact (List.perm_append_singleton _ _).trans List.perm_middle.symm
  have sorted (orders : List Order) := (Backend.table.sequence_perm orders).map Order.createdAt
  have alike := allComparable_times ((sorted _).trans (times.trans (sorted _).symm))
  have made (orders : List Order) : newestFirst (Backend.table.sequence orders) =
      if allComparable (Backend.table.sequence orders) then .ok _ else .error .wrongKind := rfl
  cases comparable : allComparable (Backend.table.sequence (first ++ o :: rest)) with
  | false =>
    rw [comparable] at alike
    exact Or.inl ⟨by rw [made,comparable]; rfl,by rw [made,alike]; rfl⟩
  | true =>
    rw [comparable] at alike
    have listed := (made (first ++ o :: rest)).trans (if_pos comparable)
    have others := (made (first ++ rest ++ [p])).trans (if_pos alike)
    obtain ⟨newer,tied,older,before,level,apart,stands⟩ := (newestFirst_stands listed).moved lasts.createdAt legible
    have after := stands.only (newestFirst_stands others) later
    refine Or.inr ⟨newer,tied,older,_,_,listed,others,before,after,level,apart,?_⟩
    rw [before,after]
    refine shift_same lasts.id ?_
    rw [← before]
    exact ((newestFirst_stands listed).asked.map Order.id).nodup_iff.mpr distinct

end Filed

namespace Desk

-- What a call that names an order makes of the whole listing. Only a table changes it, and only behind the order.
structure Places (d : Desk) (v : Visit) (id : String) : Prop where
  unwritten : (d.visit v).2.writes (d.stored id) = false → (d.visit v).1.list .all .whole = d.list .all .whole
  memory : d.backend = .memory → ∀ o p, d.stored id = some o → (d.visit v).1.stored id = some p →
    ((d.visit v).1.list .all .whole).map (List.map Order.id) = (d.list .all .whole).map (List.map Order.id)
  table : d.backend = .table → (d.visit v).2.writes (d.stored id) = true →
    ∀ o p, d.stored id = some o → (d.visit v).1.stored id = some p →
      (d.list .all .whole = .error .wrongKind ∧ (d.visit v).1.list .all .whole = .error .wrongKind) ∨
      ∃ newer tied older listed others, d.list .all .whole = .ok listed ∧ (d.visit v).1.list .all .whole = .ok others ∧
        Falls o p newer tied older listed others

section
variable {d : Desk} {id : String} {orders : List Order} {v : Visit} {visits : List Visit}

theorem list_sequence (working : d.storage.broken = []) (shelved : d.storage.store.Shelved orders) (dated : d.storage.store.Dated) :
    d.list .all .whole = newestFirst (d.backend.sequence orders) := by
  have given : d.storage.list = .ok (d.backend.sequence orders) := by
    rw [Storage.list,Storage.working,Storage.fault?,working]
    exact shelved.sequenced dated
  rw [list,listing,given,bind_ok,Filter.select_all,bind_ok]
  cases newestFirst (d.backend.sequence orders) <;> rfl

theorem visit_places (ready : d.Ready (v :: visits)) (orderly : d.storage.store.Orderly) (named : v.call.subject? = some id) :
    d.Places v id := by
  obtain ⟨⟨orders,shelved⟩,dated⟩ := orderly
  have writes := visit_writes ready named
  obtain ⟨after,leaves⟩ := writes.leaves shelved
  have before := list_sequence ready.working shelved dated
  have later := list_sequence (d:=(d.visit v).1) (writes.broken.trans ready.working) leaves.shelved (leaves.dated dated)
  rw [show (d.visit v).1.backend = d.backend from leaves.backend] at later
  have filed : Filed d.backend id orders _ after := leaves.filed
  refine ⟨fun unwritten => ?_,fun memory o p stored present => ?_,fun table written o p stored present => ?_⟩
  · rw [unwritten] at writes
    rw [list,list,listing,listing,writes.unwritten]
  · rw [memory] at before later filed
    rw [before,later]
    exact newestFirst_slots (filed.slots ((leaves.shelved.finds id).symm.trans present))
  · rw [table] at before later filed
    rw [written] at filed
    have held := (shelved.finds id).symm.trans stored
    have there := (leaves.shelved.finds id).symm.trans present
    rw [before,later]
    exact filed.falls shelved.distinct held there (shelved.legible table) (leaves.shelved.legible (leaves.backend.trans table))

theorem run_places {earlier later : List Visit} (opened : d.Opened visits) (split : visits = earlier ++ v :: later)
    (named : v.call.subject? = some id) : (d.run earlier).Places v id :=
  visit_places (opened.ready_at split) (opened.orderly split) named

end

section
variable {d : Desk} {v : Visit} {visits : List Visit} {creation : Creation} {orders : List Order}

theorem Makes.new (makes : d.Makes v creation) (ready : d.Ready (v :: visits)) : creation.order.New (d.idAt 0) v.now := by
  rcases visit_before ready makes.here with ⟨before,held,-⟩ | ⟨-,-,-,other,-,same,new⟩
  · have more : creations (v :: visits) = creations visits + 1 := List.countP_cons_of_pos makes.creates
    rw [ready.fresh 0 (by omega)] at held
    cases held
  · exact same ▸ new

-- A new order is the last one of its store.
theorem Makes.shelved (makes : d.Makes v creation) (ready : d.Ready (v :: visits)) (orderly : d.storage.store.Orderly)
    (shelved : d.storage.store.Shelved orders) : (d.visit v).1.storage.store.Shelved (orders ++ [creation.order]) := by
  obtain ⟨after,later⟩ := (visit_orderly ready orderly).shelved
  have records (s : Store) : s.records = s.held := by cases s <;> rfl
  have more := makes.stores.records
  rw [records,records,later.held,shelved.held,← List.map_singleton,← List.map_append] at more
  exact List.map_injective_iff.mpr (fun _ _ => Except.ok.inj) more ▸ later

end

-- Two orders of one moment in a table. The first one is activated, and it falls behind the second.

def unhurried : Desk := {vacant .table with settings := {Settings.standard with autoActivate := false}}
def abreast : List Visit := [⟨.origin,.create (.str "stop-loss") stopLoss⟩,⟨.origin,.create (.str "stop-loss") stopLoss⟩]
def activating : Visit := ⟨.epoch,.activate "order_1"⟩

theorem abreast_opened : unhurried.Opened (abreast ++ [activating]) := by
  have opened : (vacant .table).Opened (abreast ++ [activating]) := by
    refine vacant_opened fun v member => ?_
    simp only [abreast,List.mem_append,List.mem_cons,List.not_mem_nil,or_false] at member
    rcases member with (rfl | rfl) | rfl <;> exact Timestamp.utc_legible (by decide +kernel)
  exact ⟨opened.empty,opened.working,opened.clocks,opened.distinct⟩

theorem abreast_made : ∃ o q, (unhurried.run abreast).storage.store.Shelved [o,q] ∧ o.New "order_1" .origin ∧
    q.createdAt = .origin ∧ o.status = .created := by
  have ready := opened_ready abreast_opened
  have counted : unhurried.Counted := rfl
  obtain ⟨plan,drawn⟩ := stopLoss_drawn
  obtain ⟨first,makes⟩ := visit_drawn ready counted rfl drawn
  have readyNext := (visit_leaves ready).ready
  have settings := visit_settings ready
  obtain ⟨second,again⟩ := visit_drawn readyNext (visit_counted counted _) rfl (by rw [settings]; exact drawn)
  have empty : unhurried.storage.store.Orderly := Store.empty_orderly .table
  have bare : unhurried.storage.store.Shelved [] := ⟨rfl,List.nodup_nil⟩
  have one := makes.shelved ready empty bare
  have two := again.shelved readyNext (visit_orderly ready empty) one
  rw [abreast,run,List.foldl_cons,List.foldl_cons,List.foldl_nil]
  exact ⟨first.order,second.order,two,makes.new ready,(again.new readyNext).createdAt,(makes.stores.taken rfl).2⟩

theorem abreast_falls : ∃ o p q, (unhurried.run abreast).list .all .whole = .ok [o,q] ∧
    ((unhurried.run abreast).visit activating).1.list .all .whole = .ok [q,p] ∧ o.id ≠ q.id := by
  have places : (unhurried.run abreast).Places activating "order_1" := run_places abreast_opened rfl rfl
  obtain ⟨o,q,shelved,new,created,status⟩ := abreast_made
  have ready := abreast_opened.ready_at rfl
  have orderly := abreast_opened.orderly rfl
  have backend : (unhurried.run abreast).backend = .table := (run_ready (opened_ready abreast_opened)).2.1
  generalize unhurried.run abreast = d at places shelved ready orderly backend ⊢
  have held : d.stored "order_1" = some o := by
    rw [stored,shelved.finds,List.find?_cons_of_pos ((Store.hasId_text _ _).mpr new.id)]
  have apart : o.id ≠ q.id := by simpa using shelved.distinct
  have listed : d.list .all .whole = .ok [o,q] := by
    rw [list_sequence ready.working shelved orderly.dated]
    exact newestFirst_level d.backend fun p member => by
      rcases List.mem_pair.mp member with rfl | rfl
      · exact new.createdAt
      · exact created
  obtain ⟨answer,p,there,-⟩ := visit_activates ready rfl held status
  rcases places.table backend (by rw [answer]; rfl) o p held there with ⟨refused,-⟩ | ⟨newer,tied,older,_,others,same,made,falls⟩
  · cases refused.symm.trans listed
  · cases same.symm.trans listed
    exact ⟨o,p,q,listed,made.trans (congrArg Except.ok (falls.pair (created.trans new.createdAt.symm) apart)),apart⟩

end Desk
end OrderDesk
