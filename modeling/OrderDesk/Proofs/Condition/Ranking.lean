import OrderDesk.Proofs.Condition.Compare

-- Where the numeric operators put a number beside a bound. Less, greater and the two between them go by the
-- exact order; equality goes by the float nearest to the number, so it agrees with them unless a whole number
-- is rounded onto the bound.
namespace OrderDesk
namespace Binary64

theorem signed_natAbs (n : Int) (size : Nat) : signed (decide (n < 0)) (n.natAbs * size) = n * size := by
  rcases Int.lt_or_le n 0 with below | least
  · rw [decide_eq_true below,signed,if_pos rfl,Int.natCast_mul,Int.ofNat_natAbs_of_nonpos (Int.le_of_lt below),Int.neg_mul,
      Int.neg_neg]
  · rw [decide_eq_false (Int.not_lt.mpr least),signed,if_neg Bool.false_ne_true,Int.natCast_mul,Int.natAbs_of_nonneg least]

theorem signed_size (negative : Bool) (quanta : Nat) : (signed negative quanta).natAbs = quanta := by
  cases negative <;> simp [signed]

end Binary64

namespace Number
open Binary64
variable {a : Number} {n : Int} {x bound : Binary64}

-- A whole number that a float can hold stays where it is.
theorem place_held (held : representable (n.natAbs * scale) = true) : (float (ofInt n)).place = (int n).place := by
  have made : ofInt n = .finite (decide (n < 0)) (n.natAbs * scale) held := by
    rw [ofInt,ofRatio,nearest_exact held]
    exact dif_pos held
  rw [made,place,place,signed_natAbs]

theorem held_equal (same : (int n).eq (.float bound) = true) : representable (n.natAbs * scale) = true := by
  cases bound with
  | finite negative quanta held =>
    have counts : n * (scale : Int) = signed negative quanta := Int.compare_eq_eq.mp (Option.some.inj (eq_of_beq same))
    have sizes := congrArg Int.natAbs counts
    rw [Int.natAbs_mul,Int.natAbs_natCast,signed_size] at sizes
    exact sizes ▸ held
  | nan => cases same
  | infinite negative => cases negative <;> cases same

theorem held_short (short : n.natAbs ≤ 2 ^ 53) : representable (n.natAbs * scale) = true := by
  obtain ⟨held,-⟩ := literal_whole short rfl
  exact held

-- A whole number that is not the bound, while the float nearest to it is.
def Blurs (a : Number) (bound : Binary64) : Prop :=
  ∃ n x, a = .int n ∧ a.toFloat? = some x ∧ (float x).eq (.float bound) = true ∧ a.eq (.float bound) = false

theorem Blurs.long (blurs : a.Blurs bound) : ∃ n, a = .int n ∧ 2 ^ 53 < n.natAbs := by
  obtain ⟨n,x,rfl,converted,rounded,apart⟩ := blurs
  refine ⟨n,rfl,Nat.lt_of_not_le fun short => ?_⟩
  rcases toFloat_cases converted with same | ⟨m,same,nearest⟩
  · cases same
  · cases same
    have held := held_short short
    rw [nearest,eq,compare?,place_held held] at rounded
    rw [eq,compare?,rounded] at apart
    cases apart

theorem converted_eq (converted : a.toFloat? = some x) :
    (float x).eq (.float bound) = true ↔ a.eq (.float bound) = true ∨ a.Blurs bound := by
  constructor
  · intro rounded
    cases exact : a.eq (.float bound) with
    | true => exact Or.inl rfl
    | false =>
      rcases toFloat_cases converted with rfl | ⟨n,rfl,-⟩
      · rw [rounded] at exact
        cases exact
      · exact Or.inr ⟨n,x,rfl,converted,rounded,exact⟩
  · rintro (exact | ⟨n,y,rfl,own,rounded,-⟩)
    · rcases toFloat_cases converted with rfl | ⟨n,rfl,nearest⟩
      · exact exact
      · have held := held_equal exact
        rw [nearest,eq,compare?,place_held held]
        exact exact
    · cases converted.symm.trans own
      exact rounded

theorem float_placed (known : x.isNaN = false) : ∃ p, (float x).place = some p := by
  cases x with
  | nan => cases known
  | infinite negative => cases negative <;> exact ⟨_,rfl⟩
  | finite negative quanta held => exact ⟨_,rfl⟩

theorem compare_known (converted : a.toFloat? = some x) (known : x.isNaN = false) (number : bound.isNaN = false) :
    ∃ order, a.compare? (.float bound) = some order := by
  have placed : ∃ p, a.place = some p := by
    rcases toFloat_cases converted with rfl | ⟨n,rfl,-⟩
    · exact float_placed known
    · exact ⟨_,rfl⟩
  obtain ⟨p,here⟩ := placed
  obtain ⟨q,there⟩ := float_placed number
  exact ⟨_,by rw [compare?,here,there]⟩

end Number

namespace Operator
variable {v : Json} {a : Number} {x bound : Binary64}

-- What is said of a number and a bound that lie in this order, when equality is answered so.
structure Places (v : Json) (a : Number) (bound : Binary64) (order : Ordering) (equal : Bool) : Prop where
  exact : a.compare? (.float bound) = some order
  lt : compare .lt v (.float bound) = .ok (order == .lt)
  gt : compare .gt v (.float bound) = .ok (order == .gt)
  lte : compare .lte v (.float bound) = .ok (order != .gt)
  gte : compare .gte v (.float bound) = .ok (order != .lt)
  eq : compare .eq v (.float bound) = .ok equal
  ne : compare .ne v (.float bound) = .ok (!equal)
  same : equal = true ↔ order = .eq ∨ a.Blurs bound
  one : [order == .lt,equal,order == .gt].count true = 1 ↔ ¬ a.Blurs bound
  atMost : (order != .gt) = (order == .lt || equal) ↔ ¬ (a.Blurs bound ∧ order = .gt)
  atLeast : (order != .lt) = (order == .gt || equal) ↔ ¬ (a.Blurs bound ∧ order = .lt)

theorem compare_order (read : v.number? = some a) {op : Operator} (ordered : op = .lt ∨ op = .lte ∨ op = .gt ∨ op = .gte)
    (bound : Binary64) : compare op v (.float bound) = .ok (op.holds (a.compare? (.float bound))) := by
  rw [compare_ordered ordered,read,Option.any_some]

theorem compare_places (read : v.number? = some a) (converted : a.toFloat? = some x) (known : x.isNaN = false)
    (number : bound.isNaN = false) : ∃ order, Places v a bound order ((Number.float x).eq (.float bound)) := by
  obtain ⟨order,exact⟩ := Number.compare_known converted known number
  have equal : (Number.float x).eq (.float bound) = true ↔ a.eq (.float bound) = true ∨ a.Blurs bound :=
    Number.converted_eq converted
  have apart (blurs : a.Blurs bound) : order ≠ .eq := by
    rintro rfl
    obtain ⟨n,y,-,-,-,differs⟩ := blurs
    rw [Number.eq,exact] at differs
    cases differs
  have level : a.eq (.float bound) = true ↔ order = .eq := by rw [Number.eq,exact]; simp
  rw [level] at equal
  refine ⟨order,exact,?_,?_,?_,?_,?_,?_,equal,?_,?_,?_⟩
  · rw [compare_order read (by simp),exact]
    cases order <;> rfl
  · rw [compare_order read (by simp),exact]
    cases order <;> rfl
  · rw [compare_order read (by simp),exact]
    cases order <;> rfl
  · rw [compare_order read (by simp),exact]
    cases order <;> rfl
  · rw [compare_equal,read]
    simp only [converted]
  · rw [compare_different,read]
    simp only [converted]
  all_goals
    generalize (Number.float x).eq (.float bound) = answer at equal ⊢
    by_cases blurs : a.Blurs bound <;> cases order <;> cases answer <;> simp_all

theorem holds_atLeast (x y : Number) : holds .gte (x.compare? y) = y.le x := by
  rw [← holds_atMost,Number.compare_swap]
  cases y.compare? x with
  | none => rfl
  | some order => cases order <;> rfl

-- A number beside every bound, and in every range.
structure Ranks (v : Json) (a : Number) : Prop where
  placed : ∀ bound : Binary64, bound.isNaN = false → ∃ order equal, Places v a bound order equal
  ranged : ∀ low high : Binary64, ∃ above below, compare .gte v (.float low) = .ok above ∧
    compare .lte v (.float high) = .ok below ∧ compare .between v (.arr [.float low,.float high]) = .ok (above && below)
  -- Only whole numbers of more than 53 bits are rounded.
  blurred : ∀ bound, a.Blurs bound → ∃ n, a = .int n ∧ 2 ^ 53 < n.natAbs

theorem compare_ranks (read : v.number? = some a) (converted : a.toFloat? = some x) (known : x.isNaN = false) : Ranks v a := by
  refine ⟨?_,?_,fun bound blurs => blurs.long⟩
  · intro bound number
    obtain ⟨order,placed⟩ := compare_places read converted known number
    exact ⟨order,_,placed⟩
  · intro low high
    refine ⟨(Number.float low).le a,a.le (.float high),?_,?_,?_⟩
    · rw [compare_order read (by simp),holds_atLeast]
    · rw [compare_order read (by simp),holds_atMost]
    · rw [compare_within,read,Option.any_some]

-- The first whole number that is no float, beside the float below it, to which it is rounded.
def odd : Int := Int.pow 2 53 + 1

def even : Binary64 := Binary64.ofNat (2 ^ 53)

theorem odd_ranks : Ranks (.int odd) (.int odd) ∧ (Number.int odd).Blurs even ∧
    compare .eq (.int odd) (.float even) = .ok true ∧ compare .gt (.int odd) (.float even) = .ok true ∧
    compare .lte (.int odd) (.float even) = .ok false := by
  have rounded : (Number.int odd).toFloat? = some even := by decide +kernel
  have apart : (Number.int odd).eq (.float even) = false := by decide +kernel
  have same : (Number.float even).eq (.float even) = true := by decide +kernel
  have known : even.isNaN = false := by decide +kernel
  have blurs : (Number.int odd).Blurs even := ⟨odd,even,rfl,rounded,same,apart⟩
  have ranks : Ranks (.int odd) (.int odd) := compare_ranks rfl rounded known
  have above : (Number.int odd).compare? (.float even) = some .gt := by decide +kernel
  obtain ⟨order,equal,places⟩ := ranks.placed even known
  cases above.symm.trans places.exact
  refine ⟨ranks,blurs,?_,places.gt,places.lte⟩
  rw [places.eq,places.same.mpr (Or.inr blurs)]

end Operator
end OrderDesk
