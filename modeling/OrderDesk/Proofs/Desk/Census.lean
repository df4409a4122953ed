import Mathlib.Algebra.BigOperators.Group.List.Basic
import Mathlib.Algebra.GroupWithZero.Nat
import OrderDesk.Proofs.Desk.Filing

-- Statistics beside listings. Every count is the number of orders that the filter of its own asks for, so a
-- listing has as many, as far as its creation times can be compared at all. A call that moves an order from one
-- status to another takes one from the count of the first and adds one to that of the second.
namespace OrderDesk

-- Filters that ask for one status and for one kind.
def Filter.ofStatus (status : Status) : Filter := ⟨[status],[],[]⟩
def Filter.ofKind (kind : Kind) : Filter := ⟨[],[kind],[]⟩

namespace Stats

-- The counts of one status and of one kind.
def ofStatus (s : Stats) (status : Status) : Nat := ((s.byStatus.find? fun entry => entry.1 == status).map Prod.snd).getD 0
def ofKind (s : Stats) (kind : Kind) : Nat := ((s.byKind.find? fun entry => entry.1 == kind).map Prod.snd).getD 0

-- One order more of the one status, and one less of the other.
structure Shifts (s t : Stats) (old new : Status) : Prop where
  total : t.total = s.total
  kinds : t.byKind = s.byKind
  still : old = new → t = s
  taken : old ≠ new → t.ofStatus old + 1 = s.ofStatus old
  added : old ≠ new → t.ofStatus new = s.ofStatus new + 1
  others : ∀ status, status ≠ old → status ≠ new → t.ofStatus status = s.ofStatus status

section
variable {κ : Type} [DecidableEq κ] {keys : List κ}

theorem count_keys (key : Order → κ) (keys : List κ) (orders : List Order) : (count key keys orders).map Prod.fst = keys := by
  simp [count,Function.comp_def]

theorem count_find (key : Order → κ) (orders : List Order) {k : κ} (known : k ∈ keys) :
    (((count key keys orders).find? fun entry => entry.1 == k).map Prod.snd).getD 0 = orders.countP fun o => key o = k := by
  induction keys with
  | nil => cases known
  | cons first rest ih =>
    rw [count,List.map_cons,List.find?_cons,← count]
    by_cases same : first = k
    · simp [same]
    · have later : k ∈ rest := (List.mem_cons.mp known).resolve_left (Ne.symm same)
      simp only [beq_eq_false_iff_ne.mpr same]
      exact ih later

-- Each order is counted under one key.
theorem count_sum (key : Order → κ) (orders : List Order) (single : ∀ k, (keys.map fun other => if k = other then 1 else 0).sum = 1) :
    ((count key keys orders).map Prod.snd).sum = orders.length := by
  rw [count,List.map_map]
  induction orders with
  | nil => simp [Function.comp_def]
  | cons o rest ih =>
    have split : (Prod.snd ∘ fun k => (k,(o :: rest).countP fun o => key o = k)) = fun k =>
        (Prod.snd ∘ fun k => (k,rest.countP fun o => key o = k)) k + if key o = k then 1 else 0 := by
      funext k
      simp only [Function.comp_apply,List.countP_cons,decide_eq_true_eq]
    rw [split,List.sum_map_add,ih,single,List.length_cons]

theorem count_perm {orders others : List Order} (permuted : others.Perm orders) (key : Order → κ) (keys : List κ) :
    count key keys others = count key keys orders := by
  simp only [count,permuted.countP_eq]

end

theorem ofOrders_perm {orders others : List Order} (permuted : others.Perm orders) : ofOrders others = ofOrders orders := by
  simp only [ofOrders,permuted.length_eq,count_perm permuted]

theorem status_known (status : Status) : status ∈ Status.all := by
  cases status <;> decide

theorem kind_known (kind : Kind) : kind ∈ Kind.all := by
  cases kind <;> decide

theorem ofStatus_count (orders : List Order) (status : Status) :
    (ofOrders orders).ofStatus status = orders.countP fun o => o.status = status :=
  count_find Order.status orders (status_known status)

theorem ofKind_count (orders : List Order) (kind : Kind) : (ofOrders orders).ofKind kind = orders.countP fun o => o.kind = kind :=
  count_find Order.kind orders (kind_known kind)

-- One order in the place of another one of its kind.
theorem ofOrders_shifts {o p : Order} (kind : p.kind = o.kind) (rest : List Order) :
    (ofOrders (o :: rest)).Shifts (ofOrders (p :: rest)) o.status p.status := by
  have kinds : count Order.kind Kind.all (p :: rest) = count Order.kind Kind.all (o :: rest) := by
    simp only [count,List.countP_cons,kind]
  have counts (status : Status) : (ofOrders (p :: rest)).ofStatus status + (if o.status = status then 1 else 0) =
      (ofOrders (o :: rest)).ofStatus status + if p.status = status then 1 else 0 := by
    simp only [ofStatus_count,List.countP_cons,decide_eq_true_eq]
    omega
  refine ⟨rfl,kinds,?_,?_,?_,?_⟩
  · intro same
    simp only [ofOrders,kinds,List.length_cons,Stats.mk.injEq,and_true,true_and]
    simp only [count,List.countP_cons,same]
  · intro differs
    have count := counts o.status
    rwa [if_pos rfl,if_neg (Ne.symm differs),Nat.add_zero] at count
  · intro differs
    have count := counts p.status
    rwa [if_pos rfl,if_neg differs,Nat.add_zero] at count
  · intro status old new
    have count := counts status
    rwa [if_neg (Ne.symm old),if_neg (Ne.symm new)] at count

end Stats

-- All creation times among these orders can be compared.
def Comparable (orders : List Order) : Prop := ∀ a ∈ orders, ∀ b ∈ orders, a.createdAt.comparable b.createdAt = true

namespace Store

-- No two orders have one id.
def Keyed : Store → Prop
  | memory orders => (orders.map Order.id).Nodup
  | table rows => (rows.map Row.id).Nodup

theorem Keyed.shelved {s : Store} {listed : List Order} (keyed : s.Keyed) (given : s.list = .ok listed) : ∃ orders, s.Shelved orders := by
  cases s with
  | memory orders => exact ⟨orders,rfl,keyed⟩
  | table rows =>
    have sorted := (List.mergeSort_perm rows fun a b => a.createdAt ≤ b.createdAt).map Row.toOrder
    obtain ⟨orders,-,same⟩ := ordersOf_read rows fun r member => by
      have read := sorted.mem_iff.mpr (List.mem_map_of_mem member)
      rw [ordersOf_ok given] at read
      obtain ⟨o,-,same⟩ := List.mem_map.mp read
      exact ⟨o,same.symm⟩
    refine ⟨orders,same.symm,?_⟩
    have ids : orders.map Order.id = (rows.map Row.id).map Json.optStr := by
      have texts := congrArg (List.map fun read : Except Fault Order => read.toOption.map Order.id) same
      have own : rows.map (fun r => r.toOrder.toOption.map Order.id) = rows.map fun r => some (Json.optStr r.id) := by
        refine List.map_congr_left fun r member => ?_
        have read : r.toOrder ∈ orders.map .ok := same ▸ List.mem_map_of_mem member
        obtain ⟨o,-,taken⟩ := List.mem_map.mp read
        rw [← taken,← Row.read_id taken.symm]
        rfl
      rw [List.map_map,List.map_map] at texts
      have all : (orders.map Order.id).map some = ((rows.map Row.id).map Json.optStr).map some := by
        rw [List.map_map,List.map_map,List.map_map]
        exact texts.trans own
      exact List.map_injective_iff.mpr (fun _ _ => Option.some.inj) all
    rw [ids]
    refine List.Nodup.map ?_ keyed
    intro a b same
    cases a <;> cases b <;> simp_all [Json.optStr,Json.ofOption]

end Store

namespace Desk

-- So many orders are asked for, and so long is the listing, as far as their creation times can be compared.
structure Tallies (d : Desk) (f : Filter) (asked : List Order) (n : Nat) : Prop where
  length : asked.length = n
  listed : Comparable asked → ∃ listed, d.list f .whole = .ok listed ∧ listed.length = n
  unlisted : ¬ Comparable asked → d.list f .whole = .error .wrongKind

-- Statistics of the stored orders, beside the listings that ask for all of them, for one status and for one kind.
structure Counts (d : Desk) (orders : List Order) (s : Stats) : Prop where
  statuses : s.byStatus.map Prod.fst = Status.all
  kinds : s.byKind.map Prod.fst = Kind.all
  statusSum : (s.byStatus.map Prod.snd).sum = s.total
  kindSum : (s.byKind.map Prod.snd).sum = s.total
  whole : d.Tallies .all orders s.total
  status : ∀ status, d.Tallies (.ofStatus status) (orders.filter fun o => o.status = status) (s.ofStatus status)
  kind : ∀ kind, d.Tallies (.ofKind kind) (orders.filter fun o => o.kind = kind) (s.ofKind kind)

section
variable {d : Desk} {id : String} {orders listed : List Order}

theorem list_tallies {f : Filter} {asked : List Order} (given : d.storage.list = .ok orders) (selects : f.select orders = .ok asked) :
    d.Tallies f asked asked.length := by
  have answer : d.list f .whole = (newestFirst asked).map Page.whole.cut := by
    rw [list,listing,given,bind_ok,selects,bind_ok]
  have comparable : allComparable asked = true ↔ Comparable asked := allComparable_iff
  refine ⟨rfl,fun alike => ?_,fun apart => ?_⟩
  · rw [answer,newestFirst,if_pos (comparable.mpr alike)]
    exact ⟨_,rfl,List.length_mergeSort _⟩
  · rw [answer,newestFirst,if_neg (mt comparable.mp apart)]
    rfl

theorem stats_counts (given : d.storage.list = .ok orders) : d.Counts orders (.ofOrders orders) := by
  have tallies (statuses : List Status) (kinds : List Kind) :=
    list_tallies given (Filter.select_asks statuses kinds [] orders)
  have asks {p q : Order → Prop} [DecidablePred p] [DecidablePred q] (same : ∀ o, p o ↔ q o) :
      orders.filter (fun o => p o) = orders.filter fun o => q o := by
    simp only [same]
  refine ⟨Stats.count_keys _ _ _,Stats.count_keys _ _ _,?_,?_,?_,fun status => ?_,fun kind => ?_⟩
  · exact Stats.count_sum _ _ fun status => by cases status <;> decide
  · exact Stats.count_sum _ _ fun kind => by cases kind <;> decide
  · exact list_tallies given (Filter.select_all orders)
  · have own : ∀ o, Filter.Asks [status] [] [] o ↔ o.status = status := fun o =>
      ⟨fun asks => List.mem_singleton.mp (asks.status.resolve_left (by simp)),
        fun same => ⟨Or.inr (List.mem_singleton.mpr same),Or.inl rfl,Or.inl rfl⟩⟩
    have one := tallies [status] []
    rw [asks own] at one
    rw [Stats.ofStatus_count,List.countP_eq_length_filter]
    exact one
  · have own : ∀ o, Filter.Asks [] [kind] [] o ↔ o.kind = kind := fun o =>
      ⟨fun asks => List.mem_singleton.mp (asks.kind.resolve_left (by simp)),
        fun same => ⟨Or.inl rfl,Or.inr (List.mem_singleton.mpr same),Or.inl rfl⟩⟩
    have one := tallies [] [kind]
    rw [asks own] at one
    rw [Stats.ofKind_count,List.countP_eq_length_filter]
    exact one

theorem stats_listed {s : Stats} (counted : d.stats = .ok s) : ∃ listed, d.storage.list = .ok listed ∧ s = .ofOrders listed := by
  rw [stats] at counted
  cases given : d.storage.list with
  | error fault =>
    rw [given] at counted
    cases counted
  | ok listed =>
    rw [given] at counted
    exact ⟨listed,rfl,(Except.ok.inj counted).symm⟩

-- What the writes at one id make of the counts, for an order that is there before and after.
theorem writes_shifts {s t : Storage} {wrote : Bool} {o p : Order} (writes : Storage.Writes id s wrote t)
    (keyed : s.store.Keyed) (before : s.store.find id = some o) (after : t.store.find id = some p) (given : s.list = .ok listed) :
    ∃ others, t.list = .ok others ∧ (Stats.ofOrders listed).Shifts (.ofOrders others) o.status p.status := by
  obtain ⟨_,works,read⟩ := bind_eq_ok.mp given
  obtain ⟨orders,shelved⟩ := keyed.shelved read
  obtain ⟨later,leaves⟩ := writes.leaves shelved
  obtain ⟨others,again,permuted⟩ := leaves.shelved.listed
  have stored : listed.Perm orders := Store.ok_perm (shelved.held ▸ Store.list_held read)
  have relisted : t.list = .ok others := by
    have same : t.working .list = s.working .list := by rw [Storage.working,Storage.fault?,writes.broken]; rfl
    rw [Storage.list,same,works,bind_ok,again]
  refine ⟨others,relisted,?_⟩
  rw [shelved.finds] at before
  rw [leaves.shelved.finds] at after
  rw [Stats.ofOrders_perm permuted,Stats.ofOrders_perm stored]
  have here := Store.find_perm shelved.distinct before
  have there := Store.find_perm leaves.shelved.distinct after
  rw [Stats.ofOrders_perm here,Stats.ofOrders_perm there,leaves.filed.others]
  exact Stats.ofOrders_shifts (congrArg Params.kind (leaves.filed.lasts before after).params) _

-- Whatever is stored, statistics and listings agree as far as there can be a listing, and a call that names an order shifts the counts
-- by the statuses that this order has before it and after it.
theorem stats_agree (d : Desk) :
    ((∃ fault, d.stats = .error fault ∧ ∀ f p, d.list f p = .error fault) ∨
      ∃ orders s, d.storage.list = .ok orders ∧ d.stats = .ok s ∧ d.Counts orders s) ∧
    ∀ v id o p s, d.storage.store.Keyed → v.call.subject? = some id → d.stored id = some o → (d.visit v).1.stored id = some p →
      d.stats = .ok s → ∃ t, (d.visit v).1.stats = .ok t ∧ s.Shifts t o.status p.status := by
  constructor
  · cases given : d.storage.list with
    | error fault =>
      refine Or.inl ⟨fault,by rw [stats,given]; rfl,fun f p => ?_⟩
      rw [list,listing,given]
      rfl
    | ok orders => exact Or.inr ⟨orders,_,rfl,by rw [stats,given]; rfl,stats_counts given⟩
  · intro v id o p s keyed subject before after counted
    obtain ⟨listed,given,rfl⟩ := stats_listed counted
    obtain ⟨wrote,writes⟩ := visit_files d subject
    obtain ⟨others,relisted,shifts⟩ := writes_shifts writes keyed before after given
    exact ⟨_,by rw [stats,relisted]; rfl,shifts⟩

end

-- Two orders, of which one is cancelled.

def callingOff : Visit := ⟨.epoch,.cancel "order_1"⟩

theorem stacked_agree : ∃ s t, stacked.stats = .ok s ∧ (stacked.visit callingOff).1.stats = .ok t ∧
    s.Shifts t .created .cancelled := by
  have keyed : stacked.storage.store.Keyed := by
    have ids : shelf.map Order.id = ["order_1","order_2","order_3","order_4"].map .str := rfl
    have distinct : (shelf.map Order.id).Nodup := by
      rw [ids]
      exact List.Nodup.map (fun _ _ => Json.str.inj) (by decide)
    exact distinct
  obtain ⟨t,counted,shifts⟩ := (stats_agree stacked).2 callingOff "order_1" _ _ _ keyed rfl rfl rfl rfl
  exact ⟨_,t,rfl,counted,shifts⟩

-- One order with an offset and one without cannot be put in sequence, but they can be counted.

def unlike : Desk := {vacant .memory with storage := ⟨.memory [
  .fresh "order_1" ⟨"ETH",none,[],.stopLoss 100 ⟨100,none⟩⟩ .epoch,
  .fresh "order_2" ⟨"ETH",none,[],.stopLoss 100 ⟨100,none⟩⟩ {Timestamp.epoch with offset := none}],[]⟩}

theorem unlike_disagree : (∃ s, unlike.stats = .ok s ∧ s.total = 2) ∧ unlike.list .all .whole = .error .wrongKind :=
  ⟨⟨_,rfl,rfl⟩,rfl⟩

end Desk
end OrderDesk
