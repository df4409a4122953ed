import OrderDesk.Proofs.Desk.Listing
import OrderDesk.Proofs.Desk.Session

-- A whole listing beside the table that it is made from: the orders that are asked for, each as often as it is
-- stored, the newest first, and those of one moment as the table has them.
namespace OrderDesk

-- What is stored, whether it can be read or not.
def Store.held : Store → List (Except Fault Order)
  | memory orders => orders.map .ok
  | table rows => rows.map Row.toOrder

theorem Store.ordersOf_ok {rows : List Row} {orders : List Order} (read : ordersOf rows = .ok orders) :
    rows.map Row.toOrder = orders.map .ok := by
  induction rows generalizing orders with
  | nil =>
    cases read
    rfl
  | cons r rest ih =>
    obtain ⟨o,first,later⟩ := bind_eq_ok.mp read
    obtain ⟨others,listed,made⟩ := bind_eq_ok.mp later
    cases made
    rw [List.map_cons,List.map_cons,first,ih listed]

theorem Store.list_held {s : Store} {orders : List Order} (listed : s.list = .ok orders) : (orders.map .ok).Perm s.held := by
  cases s with
  | memory stored =>
    cases listed
    exact List.Perm.refl _
  | table rows =>
    rw [held,← ordersOf_ok listed]
    exact (List.mergeSort_perm rows _).map Row.toOrder

namespace Filter
variable {statuses : List Status} {kinds : List Kind} {texts : List String} {o : Order}

-- A filter by statuses, kinds and the texts of tokens.
def byTexts (statuses : List Status) (kinds : List Kind) (texts : List String) : Filter := ⟨statuses,kinds,texts.map .str⟩

-- What it asks of an order: one of the values in each field that has any. Tokens are the same in upper and in lower case.
structure Asks (statuses : List Status) (kinds : List Kind) (texts : List String) (o : Order) : Prop where
  status : statuses = [] ∨ o.status ∈ statuses
  kind : kinds = [] ∨ o.kind ∈ kinds
  token : texts = [] ∨ ∃ token ∈ o.params.tokens, ∃ text ∈ texts, Text.upper text = Text.upper token

instance : DecidablePred (Asks statuses kinds texts) := fun o =>
  decidable_of_iff ((statuses = [] ∨ o.status ∈ statuses) ∧ (kinds = [] ∨ o.kind ∈ kinds) ∧
    (texts = [] ∨ ∃ token ∈ o.params.tokens, ∃ text ∈ texts, Text.upper text = Text.upper token))
    ⟨fun ⟨status,kind,token⟩ => ⟨status,kind,token⟩,fun asks => ⟨asks.status,asks.kind,asks.token⟩⟩

theorem upperTokens_texts (texts : List String) : upperTokens (texts.map .str) = .ok (texts.map Text.upper) := by
  induction texts with
  | nil => rfl
  | cons s rest ih =>
    rw [List.map_cons,upperTokens,ih]
    rfl

theorem wantsToken_texts (statuses : List Status) (kinds : List Kind) (texts : List String) (o : Order) :
    (byTexts statuses kinds texts).wantsToken o =
      .ok (decide (texts = [] ∨ ∃ token ∈ o.params.tokens, ∃ text ∈ texts, Text.upper text = Text.upper token)) := by
  rw [wantsToken,byTexts]
  cases texts with
  | nil => rfl
  | cons s rest =>
    dsimp only
    rw [upperTokens_texts]
    refine congrArg Except.ok ?_
    rw [Bool.eq_iff_iff]
    simp only [List.any_map,List.any_eq_true,Function.comp_apply,List.contains_iff_mem,List.mem_map,reduceCtorEq,false_or,
      decide_eq_true_iff]

theorem refuses_iff [DecidableEq α] (values : List α) (v : α) :
    (!values.isEmpty && !values.contains v) = true ↔ ¬ (values = [] ∨ v ∈ values) := by
  simp

theorem matches_asks (statuses : List Status) (kinds : List Kind) (texts : List String) (o : Order) :
    (byTexts statuses kinds texts).matches? o = .ok (decide (Asks statuses kinds texts o)) := by
  rw [matches?,wantsToken_texts]
  split
  · rename_i refused
    have status := (refuses_iff statuses o.status).mp refused
    rw [decide_eq_false fun asks : Asks statuses kinds texts o => status asks.status]
  · rename_i taken
    have status := Decidable.not_not.mp (mt (refuses_iff statuses o.status).mpr taken)
    split
    · rename_i refused
      have kind := (refuses_iff kinds o.kind).mp refused
      rw [decide_eq_false fun asks : Asks statuses kinds texts o => kind asks.kind]
    · rename_i taken
      have kind := Decidable.not_not.mp (mt (refuses_iff kinds o.kind).mpr taken)
      refine congrArg Except.ok (decide_eq_decide.mpr ?_)
      exact ⟨fun token => ⟨status,kind,token⟩,Asks.token⟩

theorem wants_asks (statuses : List Status) (kinds : List Kind) (texts : List String) :
    (byTexts statuses kinds texts).wants = fun o => decide (Asks statuses kinds texts o) := by
  funext o
  rw [wants,matches_asks]
  rfl

theorem select_asks (statuses : List Status) (kinds : List Kind) (texts : List String) (orders : List Order) :
    (byTexts statuses kinds texts).select orders = .ok (orders.filter fun o => Asks statuses kinds texts o) := by
  rw [← wants_asks]
  exact select_made _ orders fun o _ => ⟨_,matches_asks statuses kinds texts o⟩

-- A filter without values takes every order.
theorem select_all (orders : List Order) : all.select orders = .ok orders := by
  refine (select_asks [] [] [] orders).trans (congrArg Except.ok ?_)
  exact List.filter_eq_self.mpr fun o _ => decide_eq_true ⟨Or.inl rfl,Or.inl rfl,Or.inl rfl⟩

end Filter

-- What a listing of stored orders is to be.
structure Lists (asks : Order → Prop) [DecidablePred asks] (orders listed : List Order) : Prop where
  asked : listed.Perm (orders.filter fun o => asks o)
  falls : listed.Pairwise fun a b => b.born ≤ a.born
  ties : ∀ moment, listed.filter (fun o => o.born = moment) = (orders.filter fun o => asks o).filter fun o => o.born = moment

-- A list is known by the sequence of its keys and by what it has of each key.
theorem ties_equal {κ : Type} [DecidableEq κ] {key : Order → κ} {listed other : List Order} (keys : listed.map key = other.map key)
    (ties : ∀ k, listed.filter (fun o => key o = k) = other.filter fun o => key o = k) : listed = other := by
  induction listed generalizing other with
  | nil => exact (List.map_eq_nil_iff.mp keys.symm).symm
  | cons o rest ih =>
    cases other with
    | nil => simp at keys
    | cons p others =>
      obtain ⟨same,later⟩ := List.cons.inj keys
      have first := ties (key o)
      simp only [List.filter_cons,← same,decide_true,if_true] at first
      obtain ⟨rfl,-⟩ := List.cons.inj first
      refine congrArg (List.cons o) (ih later fun k => ?_)
      have own := ties k
      by_cases here : key o = k <;> simpa [List.filter_cons,here] using own

-- There is only one such listing.
theorem Lists.only {asks : Order → Prop} [DecidablePred asks] {orders listed other : List Order}
    (lists : Lists asks orders listed) (again : Lists asks orders other) : other = listed := by
  refine ties_equal ?_ fun moment => (again.ties moment).trans (lists.ties moment).symm
  have permuted := (again.asked.trans lists.asked.symm).map Order.born
  exact permuted.eq_of_pairwise (fun _ _ _ _ first second => Int.le_antisymm second first) (List.pairwise_map.mpr again.falls)
    (List.pairwise_map.mpr lists.falls)

-- Sorting leaves in their sequence what is level with one another.
theorem sort_ties {le : Order → Order → Bool} {p : Order → Bool} (trans : ∀ a b c, le a b = true → le b c = true → le a c = true)
    (total : ∀ a b, (le a b || le b a) = true) (level : ∀ a b, p a = true → p b = true → le a b = true) (orders : List Order) :
    (orders.mergeSort le).filter p = orders.filter p := by
  have ordered : (orders.filter p).Pairwise fun a b => le a b = true := by
    rw [List.pairwise_filter]
    exact List.pairwise_of_forall level
  have kept := (List.sublist_mergeSort trans total ordered List.filter_sublist).filter p
  rw [List.filter_filter] at kept
  simp only [Bool.and_self] at kept
  exact (kept.eq_of_length ((List.mergeSort_perm orders _).filter _).length_eq.symm).symm

theorem newer_ties (orders : List Order) (moment : Int) :
    (orders.mergeSort fun a b => decide (b.createdAt.instant ≤ a.createdAt.instant)).filter (fun o => o.born = moment) =
      orders.filter fun o => o.born = moment := by
  refine sort_ties newer_trans newer_total (fun a b first second => decide_eq_true (Int.le_of_eq ?_)) orders
  exact (of_decide_eq_true second).trans (of_decide_eq_true first).symm

theorem newestFirst_lists (asks : Order → Prop) [DecidablePred asks] {orders : List Order}
    (aware : ∀ o ∈ orders, o.createdAt.offset.isSome = true) :
    ∃ listed, newestFirst (orders.filter fun o => asks o) = .ok listed ∧ Lists asks orders listed := by
  have comparable : allComparable (orders.filter fun o => asks o) = true := by
    rw [allComparable_iff]
    intro a first b second
    rw [Timestamp.comparable,aware a (List.mem_filter.mp first).1,aware b (List.mem_filter.mp second).1]
    rfl
  exact ⟨_,if_pos comparable,List.mergeSort_perm _ _,List.pairwise_map.mp (newer_falls _),newer_ties _⟩

namespace Desk

theorem list_exact {d : Desk} {orders : List Order} (given : d.storage.list = .ok orders)
    (aware : ∀ o ∈ orders, o.createdAt.offset.isSome = true) : (orders.map .ok).Perm d.storage.store.held ∧
      ∀ statuses kinds texts, ∃ listed, d.list (.byTexts statuses kinds texts) .whole = .ok listed ∧
        Lists (Filter.Asks statuses kinds texts) orders listed ∧
        ∀ other, Lists (Filter.Asks statuses kinds texts) orders other → other = listed := by
  obtain ⟨_,-,read⟩ := bind_eq_ok.mp given
  refine ⟨Store.list_held read,fun statuses kinds texts => ?_⟩
  obtain ⟨listed,sorted,lists⟩ := newestFirst_lists (Filter.Asks statuses kinds texts) aware
  refine ⟨listed,?_,lists,fun _ => lists.only⟩
  have listing : d.listing (.byTexts statuses kinds texts) = .ok listed := by
    rw [Desk.listing,given,bind_ok,Filter.select_asks,bind_ok,sorted]
  rw [list,listing]
  rfl

-- Two orders of one moment, found by a token in other letters, and a sale that is found by what it buys.

def shelf : List Order := [
  .fresh "order_1" ⟨"BTC",none,[],.stopLoss 100 ⟨100,none⟩⟩ .origin,
  .fresh "order_2" ⟨"ETH",none,[],.stopLoss 100 ⟨100,none⟩⟩ .origin,
  .fresh "order_3" ⟨"ETH",none,[],.twap ⟨"usdc",90,60,3,none⟩⟩ .epoch,
  .fresh "order_4" ⟨"Btc",none,[],.takeProfit 100 ⟨100,none⟩⟩ .origin]

def stacked : Desk := {vacant .memory with storage := ⟨.memory shelf,[]⟩}

theorem shelf_exact : ∃ listed, stacked.list (.byTexts [.created] [] ["btc","USDC"]) .whole = .ok listed ∧
    Lists (Filter.Asks [.created] [] ["btc","USDC"]) shelf listed ∧ listed.length = 3 := by
  have aware : ∀ o ∈ shelf, o.createdAt.offset.isSome = true := by
    intro o member
    simp only [shelf,List.mem_cons,List.not_mem_nil,or_false] at member
    rcases member with rfl | rfl | rfl | rfl <;> decide +kernel
  obtain ⟨listed,answer,lists,-⟩ := (list_exact (d:=stacked) rfl aware).2 [.created] [] ["btc","USDC"]
  exact ⟨listed,answer,lists,lists.asked.length_eq.trans (by decide +kernel)⟩

end Desk
end OrderDesk
