import Mathlib.Data.List.Nodup
import OrderDesk.Desk.Listing

-- Pages of a listing. A page is a stretch of the whole listing that starts at its offset, and the pages of one
-- size make up the listing, one after the other. Only a limit below zero can give more than it says: where it
-- leads to a place before the start of the listing, that place is counted from the end.
namespace OrderDesk

namespace Page

-- The pages of one size, counted from zero.
def nth (size place : Nat) : Page := ⟨(place * size : Nat),some size⟩

-- A limit that leads to a place before the start of a listing, and from its end to a place that is there.
structure Overreaches (offset limit : Int) (length : Nat) : Prop where
  before : max offset 0 + limit < 0
  within : 0 < length + limit

theorem endOf_place (length start : Nat) (limit : Int) : endOf length (start + limit) - start =
    if start + limit < 0 then (length + limit).toNat else limit.toNat := by
  unfold endOf
  split <;> omega

theorem cut_limited (offset limit : Int) (orders : List α) : cut ⟨offset,some limit⟩ orders = (orders.drop offset.toNat).take
    (if offset.toNat + limit < 0 then (orders.length + limit).toNat else limit.toNat) := by
  rw [cut,← endOf_place]
  exact List.drop_take

theorem cut_prefix (offset limit : Int) (orders : List α) :
    cut ⟨offset,some limit⟩ orders <+: orders.drop (max offset 0).toNat := by
  have start : (max offset 0).toNat = offset.toNat := by omega
  rw [cut_limited,start]
  exact List.take_prefix _ _

-- As many orders as the limit says, as far as there are any, and more only where the limit overreaches.

theorem cut_within {offset limit : Int} {orders : List α} (within : ¬ Overreaches offset limit orders.length) :
    ((cut ⟨offset,some limit⟩ orders).length : Int) = min (max limit 0) (orders.length - offset.toNat : Nat) := by
  have inside : max offset 0 + limit < 0 → orders.length + limit ≤ 0 := fun before =>
    Int.not_lt.mp fun reached => within ⟨before,reached⟩
  rw [cut_limited,List.length_take,List.length_drop]
  split <;> omega

theorem cut_beyond {offset limit : Int} {orders : List α} (beyond : Overreaches offset limit orders.length) :
    ((cut ⟨offset,some limit⟩ orders).length : Int) = orders.length + limit := by
  obtain ⟨before,within⟩ := beyond
  rw [cut_limited,List.length_take,List.length_drop]
  split <;> omega

theorem cut_bounded (offset limit : Int) (orders : List α) :
    ((cut ⟨offset,some limit⟩ orders).length : Int) ≤ max limit 0 ↔ ¬ Overreaches offset limit orders.length := by
  constructor
  · intro bounded beyond
    have more := cut_beyond beyond
    obtain ⟨before,within⟩ := beyond
    omega
  · intro within
    rw [cut_within within]
    exact Int.min_le_left _ _

-- Pages one after the other.

theorem cut_nth (size place : Nat) (orders : List α) : (nth size place).cut orders = (orders.drop (place * size)).take size := by
  have ahead : ¬ ((place * size : Nat) : Int).toNat + (size : Int) < 0 := by omega
  rw [nth,cut_limited,if_neg ahead]
  simp only [Int.toNat_natCast]

theorem cut_pages (size count : Nat) (orders : List α) :
    ((List.range count).map fun place => (nth size place).cut orders).flatten = orders.take (count * size) := by
  induction count with
  | zero => simp
  | succ count ih => rw [List.range_succ,List.map_append,List.flatten_append,ih,List.map_singleton,List.flatten_singleton,cut_nth,
      Nat.succ_mul,List.take_add]

-- What is listed once is on one page.
theorem cut_apart {size first second : Nat} {orders : List α} (distinct : orders.Nodup) (apart : first < second) :
    ((nth size first).cut orders).Disjoint ((nth size second).cut orders) := by
  have joined : ((List.range (second + 1)).map fun place => (nth size place).cut orders).flatten.Nodup := by
    rw [cut_pages]
    exact (List.take_sublist _ _).nodup distinct
  have pages := List.pairwise_map.mp (List.nodup_flatten.mp joined).2
  have places : first < (List.range (second + 1)).length ∧ second < (List.range (second + 1)).length := by simp; omega
  simpa using List.pairwise_iff_getElem.mp pages first second places.1 places.2 apart

example : cut ⟨0,some (-1)⟩ [1,2,3] = [1,2] := rfl

end Page

namespace Desk

-- The pages of a filter, and the whole listing that they are cut from.
structure Windows (d : Desk) (f : Filter) (listed : List Order) : Prop where
  whole : d.list f .whole = .ok listed
  unlimited : ∀ offset, d.list f ⟨offset,none⟩ = .ok (listed.drop (max offset 0).toNat)
  stretch : ∀ offset limit, ∃ page, d.list f ⟨offset,some limit⟩ = .ok page ∧ page <+: listed.drop (max offset 0).toNat ∧
    (¬ Page.Overreaches offset limit listed.length →
      (page.length : Int) = min (max limit 0) (listed.length - offset.toNat : Nat)) ∧
    (Page.Overreaches offset limit listed.length → (page.length : Int) = listed.length + limit) ∧
    ((page.length : Int) ≤ max limit 0 ↔ ¬ Page.Overreaches offset limit listed.length)
  pages : ∀ size, 1 ≤ size → ∃ page : Nat → List Order, (∀ place, d.list f (.nth size place) = .ok (page place)) ∧
    (∀ count, ((List.range count).map page).flatten = listed.take (count * size)) ∧
    ((List.range listed.length).map page).flatten = listed ∧
    (listed.Nodup → ∀ first second, first < second → (page first).Disjoint (page second))

theorem list_cut {d : Desk} {f : Filter} {listed : List Order} (answered : d.listing f = .ok listed) (p : Page) :
    d.list f p = .ok (p.cut listed) := by
  rw [list,answered]
  rfl

theorem list_windows (d : Desk) (f : Filter) : (∃ fault, ∀ p, d.list f p = .error fault) ∨ ∃ listed, d.Windows f listed := by
  cases answered : d.listing f with
  | error fault =>
    refine Or.inl ⟨fault,fun p => ?_⟩
    rw [list,answered]
    rfl
  | ok listed =>
    refine Or.inr ⟨listed,list_cut answered .whole,?_,?_,?_⟩
    · intro offset
      have start : (max offset 0).toNat = offset.toNat := by omega
      rw [list_cut answered,start]
      rfl
    · intro offset limit
      exact ⟨_,list_cut answered _,Page.cut_prefix offset limit listed,Page.cut_within,Page.cut_beyond,
        Page.cut_bounded offset limit listed⟩
    · intro size some
      have pages := fun count => Page.cut_pages size count listed
      refine ⟨fun place => (Page.nth size place).cut listed,fun place => list_cut answered _,pages,?_,?_⟩
      · rw [pages]
        exact List.take_of_length_le (Nat.le_mul_of_pos_right _ some)
      · exact fun distinct first second apart => Page.cut_apart distinct apart

end Desk
end OrderDesk
