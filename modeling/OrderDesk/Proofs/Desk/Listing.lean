import Mathlib.Data.List.Nodup
import OrderDesk.Desk.Listing

-- Listings of the same orders in another sequence. What a filter chooses is the same, the moments of creation
-- stand in the same sequence, and where no moment is shared the listing is the same.
namespace OrderDesk

namespace Filter
variable {f : Filter} {o : Order} {orders listed others : List Order}

theorem upperTokens_fault {tokens : List Json} {fault : Fault} (refused : upperTokens tokens = .error fault) : fault = .noSuchPart := by
  induction tokens with
  | nil => cases refused
  | cons token rest ih =>
    cases token with
    | str s =>
      rw [upperTokens] at refused
      cases later : upperTokens rest with
      | ok words =>
        rw [later] at refused
        cases refused
      | error other =>
        rw [later] at refused
        cases refused
        exact ih later
    | _ => exact (Except.error.inj refused).symm

-- Only tokens that are no texts cannot be looked for.
theorem matches_fault {fault : Fault} (refused : f.matches? o = .error fault) : fault = .noSuchPart := by
  unfold matches? wantsToken at refused
  split at refused
  · cases refused
  · split at refused
    · cases refused
    · split at refused
      · cases refused
      · cases upper : upperTokens f.tokens with
        | ok words =>
          rw [upper] at refused
          cases refused
        | error other =>
          rw [upper] at refused
          cases refused
          exact upperTokens_fault upper

def wants (f : Filter) (o : Order) : Bool := (f.matches? o).toOption.getD false

theorem select_made (f : Filter) (orders : List Order) (asked : ∀ o ∈ orders, ∃ wanted, f.matches? o = .ok wanted) :
    f.select orders = .ok (orders.filter f.wants) := by
  induction orders with
  | nil => rfl
  | cons o rest ih =>
    obtain ⟨wanted,found⟩ := asked o List.mem_cons_self
    have others := ih fun other member => asked other (List.mem_cons_of_mem o member)
    have same : f.wants o = wanted := by rw [wants,found]; rfl
    rw [select,found,others,List.filter_cons,same]
    rfl

theorem select_refused (f : Filter) (orders : List Order) (member : o ∈ orders) {fault : Fault}
    (refused : f.matches? o = .error fault) : f.select orders = .error .noSuchPart := by
  induction orders with
  | nil => cases member
  | cons first rest ih =>
    rw [select]
    cases found : f.matches? first with
    | error other =>
      rw [matches_fault found]
      rfl
    | ok wanted =>
      rcases List.mem_cons.mp member with same | later
      · rw [← same,refused] at found
        cases found
      · rw [ih later]
        rfl

theorem select_perm (f : Filter) (permuted : others.Perm listed) :
    (f.select listed = .error .noSuchPart ∧ f.select others = .error .noSuchPart) ∨
      ∃ chosen picked, f.select listed = .ok chosen ∧ f.select others = .ok picked ∧ picked.Perm chosen ∧ chosen.Sublist listed := by
  by_cases asked : ∀ o ∈ listed, ∃ wanted, f.matches? o = .ok wanted
  · have again : ∀ o ∈ others, ∃ wanted, f.matches? o = .ok wanted := fun o member => asked o (permuted.mem_iff.mp member)
    exact Or.inr ⟨_,_,select_made f listed asked,select_made f others again,permuted.filter _,
      List.filter_sublist⟩
  · obtain ⟨o,member,unanswered⟩ : ∃ o ∈ listed, ∀ wanted, f.matches? o ≠ .ok wanted := by simpa using asked
    cases refused : f.matches? o with
    | ok wanted => exact absurd refused (unanswered wanted)
    | error fault =>
      exact Or.inl ⟨select_refused f listed member refused,select_refused f others (permuted.mem_iff.mpr member) refused⟩

end Filter

-- The moment of a creation, where creations are compared.
def Order.born (o : Order) : Int := o.createdAt.instant

-- The same orders, and the same moments of creation in the same sequence.
structure Alongside (listed others : List Order) : Prop where
  orders : others.Perm listed
  moments : others.map Order.born = listed.map Order.born

theorem Alongside.equal {listed others : List Order} (alongside : Alongside listed others) (distinct : (listed.map Order.born).Nodup) :
    others = listed := by
  have size : others.length = listed.length := alongside.orders.length_eq
  refine List.ext_getElem size ?_
  intro place inside within
  have moments := congrArg (fun moments => moments[place]?) alongside.moments
  simp only [List.getElem?_map,List.getElem?_eq_getElem inside,List.getElem?_eq_getElem within,Option.map_some,
    Option.some.injEq] at moments
  exact List.inj_on_of_nodup_map distinct (alongside.orders.mem_iff.mp (List.getElem_mem inside)) (List.getElem_mem within) moments

theorem allComparable_iff {orders : List Order} :
    allComparable orders = true ↔ ∀ a ∈ orders, ∀ b ∈ orders, a.createdAt.comparable b.createdAt = true := by
  cases orders with
  | nil => simp [allComparable]
  | cons o rest =>
    simp only [allComparable,List.all_eq_true,Timestamp.comparable,beq_iff_eq]
    constructor
    · intro alike a first b second
      have kind : ∀ c ∈ o :: rest, o.createdAt.offset.isSome = c.createdAt.offset.isSome := by
        intro c member
        rcases List.mem_cons.mp member with rfl | later
        · rfl
        · exact alike c later
      exact (kind a first).symm.trans (kind b second)
    · exact fun alike other member => alike o List.mem_cons_self other (List.mem_cons_of_mem o member)

-- The sequence of a listing is total and transitive.

theorem newer_trans (a b c : Order) (first : decide (b.createdAt.instant ≤ a.createdAt.instant) = true)
    (second : decide (c.createdAt.instant ≤ b.createdAt.instant) = true) : decide (c.createdAt.instant ≤ a.createdAt.instant) = true := by
  rw [decide_eq_true_iff] at first second ⊢
  exact Int.le_trans second first

theorem newer_total (a b : Order) : (decide (b.createdAt.instant ≤ a.createdAt.instant) ||
    decide (a.createdAt.instant ≤ b.createdAt.instant)) = true := by
  rw [Bool.or_eq_true,decide_eq_true_iff,decide_eq_true_iff]
  exact Int.le_total b.createdAt.instant a.createdAt.instant

theorem newer_falls (orders : List Order) :
    ((orders.mergeSort fun a b => decide (b.createdAt.instant ≤ a.createdAt.instant)).map Order.born).Pairwise fun a b => b ≤ a := by
  rw [List.pairwise_map]
  exact (List.pairwise_mergeSort newer_trans newer_total orders).imp fun order => of_decide_eq_true order

theorem newestFirst_perm {listed others : List Order} (permuted : others.Perm listed) :
    (newestFirst listed = .error .wrongKind ∧ newestFirst others = .error .wrongKind) ∨
      ∃ sorted again, newestFirst listed = .ok sorted ∧ newestFirst others = .ok again ∧ sorted.Perm listed ∧ Alongside sorted again := by
  have same : allComparable others = allComparable listed := by
    rw [Bool.eq_iff_iff,allComparable_iff,allComparable_iff]
    simp only [permuted.mem_iff]
  rw [newestFirst,newestFirst,same]
  cases allComparable listed with
  | false => exact Or.inl ⟨rfl,rfl⟩
  | true =>
    have sorts (orders : List Order) := List.mergeSort_perm orders fun a b => decide (b.createdAt.instant ≤ a.createdAt.instant)
    have orders := ((sorts others).trans permuted).trans (sorts listed).symm
    refine Or.inr ⟨_,_,rfl,rfl,sorts listed,orders,?_⟩
    exact (orders.map Order.born).eq_of_pairwise (fun _ _ _ _ first second => Int.le_antisymm second first) (newer_falls others)
      (newer_falls listed)

end OrderDesk
