import OrderDesk.Condition.Evaluate
import OrderDesk.Proofs.Numeric.Reach

-- What a leaf makes of the value at its field. A value of another kind than the leaf compares makes it false,
-- and only a whole number out of the reach of floats cannot be compared, by equality with a number.
namespace OrderDesk

-- A path without dots is the name of a field.
theorem resolve_plain {snapshot : Snapshot} {path : String} (plain : Text.split '.' path = [path]) :
    Snapshot.resolve snapshot path = (Fields.get? path snapshot).getD .null := by
  rw [Snapshot.resolve,plain,Snapshot.walk]
  cases Fields.get? path snapshot <;> rfl

namespace Operator

theorem equality_number (v : Json) (x : Binary64) : equality v (.float x) = match v.number? with
    | none => .ok none
    | some own => match own.toFloat? with
      | none => .error .overflow
      | some y => .ok (some ((Number.float y).eq (.float x))) := by
  have compared : equality v (.float x) = match v.number? with
      | none => .ok none
      | some own => (sameFloat own (.float x)).map some := by
    cases v <;> rfl
  rw [compared]
  cases v.number? with
  | none => rfl
  | some own =>
    have bound : (Number.float x).toFloat? = some x := rfl
    simp only [sameFloat,bound]
    cases own.toFloat? with
    | none => rfl
    | some y => rfl

theorem compare_equal (v : Json) (x : Binary64) : compare .eq v (.float x) = match v.number? with
    | none => .ok false
    | some own => match own.toFloat? with
      | none => .error .overflow
      | some y => .ok ((Number.float y).eq (.float x)) := by
  have compared : compare .eq v (.float x) = (equality v (.float x)).map fun same => same == some true := by cases v <;> rfl
  rw [compared,equality_number]
  cases v.number? with
  | none => rfl
  | some own =>
    dsimp only
    cases own.toFloat? with
    | none => rfl
    | some y => cases same : (Number.float y).eq (.float x) <;> simp [Except.map,same]

theorem compare_different (v : Json) (x : Binary64) : compare .ne v (.float x) = match v.number? with
    | none => .ok false
    | some own => match own.toFloat? with
      | none => .error .overflow
      | some y => .ok (!(Number.float y).eq (.float x)) := by
  have compared : compare .ne v (.float x) = (equality v (.float x)).map fun same => same == some false := by cases v <;> rfl
  rw [compared,equality_number]
  cases v.number? with
  | none => rfl
  | some own =>
    dsimp only
    cases own.toFloat? with
    | none => rfl
    | some y => cases same : (Number.float y).eq (.float x) <;> simp [Except.map,same]

theorem holds_atMost (x y : Number) : holds .lte (x.compare? y) = x.le y := by
  rw [Number.le,Number.lt,Number.eq]
  cases x.compare? y with
  | none => rfl
  | some order => cases order <;> rfl

theorem compare_text (v : Json) (s : String) : compare .eq v (.str s) = .ok (v.str?.any (· == s)) ∧
    compare .ne v (.str s) = .ok (v.str?.any (· != s)) := by
  cases v with
  | str own =>
    show Except.ok (some (own == s) == some true) = _ ∧ Except.ok (some (own == s) == some false) = _
    simp only [Json.str?,Option.any_some,bne]
    cases own == s <;> exact ⟨rfl,rfl⟩
  | _ => exact ⟨rfl,rfl⟩

-- The operators that ask for an order look at any number, however large.
theorem compare_ordered {op : Operator} (ordered : op = .lt ∨ op = .lte ∨ op = .gt ∨ op = .gte) (v : Json) (x : Binary64) :
    compare op v (.float x) = .ok (v.number?.any fun own => op.holds (own.compare? (.float x))) := by
  rcases ordered with rfl | rfl | rfl | rfl <;> cases v <;> rfl

theorem compare_within (v : Json) (low high : Binary64) : compare .between v (.arr [.float low,.float high]) =
    .ok (v.number?.any fun own => (Number.float low).le own && own.le (.float high)) := by
  have ranged (own : Number) : inRange own (.arr [.float low,.float high]) =
      .ok ((Number.float low).le own && own.le (.float high)) := by
    show (if (Number.float low).le own then Except.ok (own.le (.float high)) else .ok false) = _
    cases (Number.float low).le own <;> rfl
  cases v with
  | int n => exact ranged (.int n)
  | float x => exact ranged (.float x)
  | _ => rfl

end Operator

namespace Test

-- Texts are tested for texts, all else is tested for numbers.
def suits : Test → Json → Bool
  | equal (.text _),v | different (.text _),v => v.str?.isSome
  | _,v => v.number?.isSome

-- A whole number that is compared with a float through its own float, and has none.
def Overlong : Test → Json → Prop
  | equal (.number _),.int n | different (.number _),.int n => Binary64.reach ≤ n.natAbs
  | _,_ => False

theorem Overlong.suited {t : Test} {v : Json} (far : t.Overlong v) : t.suits v = true := by
  unfold Overlong at far
  split at far
  · rfl
  · rfl
  · cases far

theorem Overlong.whole {t : Test} {v : Json} (far : t.Overlong v) : ∃ n, v = .int n ∧ Binary64.reach ≤ n.natAbs := by
  unfold Overlong at far
  split at far
  · exact ⟨_,rfl,far⟩
  · exact ⟨_,rfl,far⟩
  · cases far

-- Nothing is tested for null.
theorem suits_null (t : Test) : t.suits .null = false := by
  unfold suits
  split <;> rfl

-- The three ways a test can come out.
inductive Outcome (t : Test) (v : Json) : Except Fault Bool → Prop where
  | compared (met : Bool) (suited : t.suits v = true) (near : ¬ t.Overlong v) : Outcome t v (.ok met)
  | unsuited (other : t.suits v = false) : Outcome t v (.ok false)
  | overlong (far : t.Overlong v) : Outcome t v (.error .overflow)

-- By equality with a number, what is overlong is what has no float.
theorem overlong_float {v : Json} {own : Number} (number : v.number? = some own) (x : Binary64) :
    (Overlong (.equal (.number x)) v ↔ own.toFloat? = none) ∧ (Overlong (.different (.number x)) v ↔ own.toFloat? = none) := by
  rw [Number.toFloat_none]
  cases v with
  | int n =>
    cases number
    have far : Binary64.reach ≤ n.natAbs ↔ ∃ m, Number.int n = .int m ∧ Binary64.reach ≤ m.natAbs :=
      ⟨fun large => ⟨n,rfl,large⟩,fun ⟨m,same,large⟩ => Number.int.inj same ▸ large⟩
    exact ⟨far,far⟩
  | float y =>
    cases number
    have near : False ↔ ∃ m, Number.float y = .int m ∧ Binary64.reach ≤ m.natAbs := by simp
    exact ⟨near,near⟩
  | _ => cases number

theorem float_outcome {t : Test} {v : Json} {own : Number} {holds : Binary64 → Bool} (suited : t.suits v = true)
    (far : t.Overlong v ↔ own.toFloat? = none) : t.Outcome v (match own.toFloat? with
      | none => .error .overflow
      | some y => .ok (holds y)) := by
  cases converted : own.toFloat? with
  | none => exact .overlong (far.mpr converted)
  | some y =>
    refine .compared _ suited fun large => ?_
    rw [far.mp large] at converted
    cases converted

theorem number_outcome {t : Test} {v : Json} {holds : Binary64 → Bool} (numeric : t.suits v = v.number?.isSome)
    (far : ∀ own, v.number? = some own → (t.Overlong v ↔ own.toFloat? = none)) : t.Outcome v (match v.number? with
      | none => .ok false
      | some own => match own.toFloat? with
        | none => .error .overflow
        | some y => .ok (holds y)) := by
  cases number : v.number? with
  | none => exact .unsuited (by rw [numeric,number]; rfl)
  | some own => exact float_outcome (by rw [numeric,number]; rfl) (far own number)

theorem any_outcome {t : Test} {v : Json} {α : Type} {found : Option α} {holds : α → Bool} (suits : t.suits v = found.isSome)
    (near : ¬ t.Overlong v) : t.Outcome v (.ok (found.any holds)) := by
  cases found with
  | none => exact .unsuited suits
  | some a => exact .compared _ suits near

theorem ordered_outcome {t : Test} {v : Json} {op : Operator} (ordered : op = .lt ∨ op = .lte ∨ op = .gt ∨ op = .gte)
    (numeric : t.suits v = v.number?.isSome) (near : ¬ t.Overlong v) (x : Binary64) :
    t.Outcome v (op.compare v (.float x)) := by
  rw [Operator.compare_ordered ordered]
  exact any_outcome numeric near

theorem compare_outcome (t : Test) (v : Json) : t.Outcome v (t.operator.compare v t.value) := by
  cases t with
  | equal c =>
    cases c with
    | number x =>
      show Outcome _ v (Operator.compare .eq v (.float x))
      rw [Operator.compare_equal]
      exact number_outcome rfl fun own number => (overlong_float number x).1
    | text s =>
      show Outcome _ v (Operator.compare .eq v (.str s))
      rw [(Operator.compare_text v s).1]
      exact any_outcome rfl id
  | different c =>
    cases c with
    | number x =>
      show Outcome _ v (Operator.compare .ne v (.float x))
      rw [Operator.compare_different]
      exact number_outcome rfl fun own number => (overlong_float number x).2
    | text s =>
      show Outcome _ v (Operator.compare .ne v (.str s))
      rw [(Operator.compare_text v s).2]
      exact any_outcome rfl id
  | less x => exact ordered_outcome (Or.inl rfl) rfl id x
  | atMost x => exact ordered_outcome (Or.inr (Or.inl rfl)) rfl id x
  | greater x => exact ordered_outcome (Or.inr (Or.inr (Or.inl rfl))) rfl id x
  | atLeast x => exact ordered_outcome (Or.inr (Or.inr (Or.inr rfl))) rfl id x
  | within low high =>
    show Outcome _ v (Operator.compare .between v (.arr [.float low,.float high]))
    rw [Operator.compare_within]
    exact any_outcome rfl id

end Test
end OrderDesk
