import OrderDesk.Proofs.Condition.Reread
import OrderDesk.Proofs.Numeric.Reach
import OrderDesk.Proofs.Validation.Overload

-- Condition trees that cannot be read to the end. The value of a leaf is read for its operator; a whole number
-- there that no float comes near is neither taken nor refused, and the tree that holds the leaf is not either.
namespace OrderDesk
open Checked Validation

-- A whole number out of the reach of floats.
def Json.Vast (v : Json) : Prop := ∃ n, v = .int n ∧ Binary64.reach ≤ n.natAbs

theorem Json.vast_int {n : Int} : (Json.int n).Vast ↔ (Number.int n).toFloat? = none := by
  rw [Number.toFloat_none]
  simp [Vast]

namespace Condition

theorem notNaN_settled (x : Binary64) : bound.notNaN x ≠ overflow := by
  unfold bound.notNaN
  split <;> simp

theorem bound_overflow {v : Json} : bound v = overflow ↔ v.Vast := by
  fun_cases bound v with
  | case2 n x near => simp [Json.vast_int,near]
  | case3 n far => simp [Json.vast_int,far]
  | case4 x => simp [Json.Vast,notNaN_settled]
  | case5 s x found => simp [Json.Vast,notNaN_settled]
  | case7 v truth whole =>
    simp only [refuse_ne_overflow,false_iff]
    intro far
    obtain ⟨n,same,-⟩ := far
    exact whole n same
  | _ => simp [Json.Vast]

theorem constant_overflow {op : Operator} {v : Json} : constant op v = overflow ↔ v.Vast := by
  fun_cases constant op v with
  | case1 n x near => simp [Json.vast_int,near]
  | case2 n far => simp [Json.vast_int,far]
  | case5 v whole =>
    simp only [refuse_ne_overflow,false_iff]
    intro far
    obtain ⟨n,same,-⟩ := far
    exact whole n same
  | _ => simp [Json.Vast]

end Condition

-- A value that an operator gives up on. The second end of a range is not looked at where the first is refused.
def Operator.Overloads (op : Operator) (v : Json) : Prop :=
  match op with
  | .between => ∃ low high, v = .arr [low,high] ∧ (low.Vast ∨ (∃ x, Condition.bound low = ok x) ∧ high.Vast)
  | _ => v.Vast

namespace Condition

theorem range_overflow {v : Json} : range v = overflow ↔ Operator.Overloads .between v := by
  unfold range
  split
  · rename_i low high
    have ordered (x y : Binary64) : (if (Number.float x).gt (.float y) then
        refuse (.rule s!"between range is inverted ({Decimal.exact x} > {Decimal.exact y})") else ok (Test.within x y)) ≠ overflow := by
      split <;> simp
    simp only [andThen_overflow,bound_overflow,ordered,and_false,exists_false,or_false]
    constructor
    · intro far
      refine ⟨low,high,rfl,?_⟩
      obtain first | ⟨x,read,second⟩ := far
      · exact Or.inl first
      · exact Or.inr ⟨⟨x,read⟩,second⟩
    · intro held
      obtain ⟨_,_,same,far⟩ := held
      cases same
      obtain first | ⟨⟨x,read⟩,second⟩ := far
      · exact Or.inl first
      · exact Or.inr ⟨x,read,second⟩
  · rename_i other
    simp only [refuse_ne_overflow,false_iff]
    intro held
    obtain ⟨low,high,same,-⟩ := held
    exact other low high same

theorem testBy_overflow {op : Operator} {v : Json} : testBy op v = overflow ↔ op.Overloads v := by
  cases op with
  | eq | ne => exact map_overflow.trans constant_overflow
  | lt | lte | gt | gte => exact map_overflow.trans bound_overflow
  | between => exact range_overflow

theorem operatorOf_settles : Settles operatorOf := by
  intro v
  unfold operatorOf
  split
  · dsimp only
    split
    · simp
    · exact choice_settles _ _
  · exact choice_settles _ _

theorem lost_settled (place : Nat) : lost place ≠ overflow := by
  simp [lost,under_overflow]

theorem pairItems_settled (items : List Json) : pairItems items ≠ overflow := by
  fun_cases pairItems items <;>
    simp [both,zipWith_overflow,under_overflow,lost_settled,number_settles _]

theorem pair_settles : Settles pair := by
  intro v
  unfold pair
  split
  · exact pairItems_settled _
  · simp

theorem anyValue_settles : Settles anyValue := by
  intro v
  unfold anyValue
  split
  · simp
  · simp
  · simp
  · simp [both,zipWith_overflow,under_overflow,number_settles v,text_settles v,pair_settles v]

-- A leaf whose operator is known and gives up on the value.
def Overloads (fields : Fields) : Prop :=
  ∃ op name v, needed (.ofName "operator") operatorOf fields = ok op ∧ (Key.ofName "value").find? fields = some (name,v) ∧ op.Overloads v

theorem testOf_overflow {fields : Fields} : testOf fields = overflow ↔ Overloads fields := by
  have known : needed (.ofName "operator") operatorOf fields ≠ overflow := needed_settled operatorOf_settles
  unfold testOf Overloads
  cases read : needed (.ofName "operator") operatorOf fields with
  | ok op => simp [needed_overflow,testBy_overflow]
  | overflow => exact absurd read known
  | invalid first rest =>
    have settled : needed (.ofName "value") anyValue fields ≠ overflow := needed_settled anyValue_settles
    cases value : needed (.ofName "value") anyValue fields with
    | overflow => exact absurd value settled
    | ok _ => simp
    | invalid other others => simp

theorem ofFields_overflow {fields : Fields} : ofFields fields = overflow ↔ Overloads fields := by
  have named : needed (.ofName "field") nonEmptyText fields ≠ overflow := needed_settled nonEmpty_settles
  rw [ofFields,zipWith_overflow,testOf_overflow]
  simp [named]

end Condition

namespace Node

inductive Overloads : Json → Prop where
  | leaf {fields : Fields} (alone : fields.get? "conditions" = none) (far : Condition.Overloads fields) : Overloads (.obj fields)
  | group {fields : Fields} {children : List Json} {child : Json} (held : fields.get? "conditions" = some (.arr children))
      (member : child ∈ children) (far : Overloads child) : Overloads (.obj fields)

-- A group with a child, however deep, that cannot be read.
def Burdened (fields : Fields) : Prop :=
  ∃ children, fields.get? "conditions" = some (.arr children) ∧ ∃ child ∈ children, Overloads child

theorem overloads_group {fields : Fields} {v : Json} (held : fields.get? "conditions" = some v) :
    Overloads (.obj fields) ↔ Burdened fields := by
  constructor
  · intro far
    cases far with
    | leaf alone =>
      rw [held] at alone
      cases alone
    | group own member far => exact ⟨_,own,_,member,far⟩
  · intro far
    obtain ⟨children,own,child,member,far⟩ := far
    exact .group own member far

theorem overloads_leaf {fields : Fields} (alone : fields.get? "conditions" = none) :
    Overloads (.obj fields) ↔ Condition.Overloads fields := by
  constructor
  · intro far
    cases far with
    | leaf _ far => exact far
    | group held =>
      rw [alone] at held
      cases held
  · exact .leaf alone

theorem junctionOf_settles : Settles junctionOf := by
  intro v
  unfold junctionOf
  split <;> exact choice_settles _ _

theorem childrenOf_get (fields : Fields) : childrenOf? fields = (fields.get? "conditions").map listOf := by
  induction fields with
  | nil => simp [childrenOf?,Fields.get?]
  | cons field rest ih =>
    rw [childrenOf?,get_cons,ih]
    simp only [beq_iff_eq]
    split <;> rfl

-- The descent is that of the reading: into the children of a group, and through the list of them.
mutual

theorem ofJson_overflow : (v : Json) → (ofJson v = overflow ↔ Overloads v)
  | .obj fields => by
    have joined : needed (.ofName "operator") junctionOf fields ≠ overflow := needed_settled junctionOf_settles
    cases held : Fields.get? "conditions" fields with
    | none =>
      have alone : childrenOf? fields = none := by rw [childrenOf_get,held,Option.map_none]
      rw [ofJson,alone,overloads_leaf held,map_overflow]
      exact Condition.ofFields_overflow
    | some v =>
      have own : childrenOf? fields = some (listOf v) := by rw [childrenOf_get,held,Option.map_some]
      rw [ofJson,own,overloads_group held,zipWith_overflow,under_overflow]
      simp [joined,childrenOf_overflow fields own]
  | .null | .bool _ | .int _ | .float _ | .str _ | .arr _ => by
    rw [ofJson]
    · simp only [refuse_ne_overflow,false_iff]
      intro far
      cases far
    · simp

theorem childrenOf_overflow : (fields : List (String × Json)) → {children : Checked (List Node)} → childrenOf? fields = some children →
    (children = overflow ↔ Burdened fields)
  | [],_,found => by simp [childrenOf?] at found
  | (key,v) :: rest,children,found => by
    rw [childrenOf?] at found
    rw [Burdened,get_cons]
    split at found
    · rename_i same
      cases found
      rw [listOf_overflow v,if_pos (eq_of_beq same)]
      simp
    · rename_i other
      rw [if_neg (fun same => other (beq_iff_eq.mpr same))]
      exact childrenOf_overflow rest found

theorem listOf_overflow : (v : Json) → (listOf v = overflow ↔ ∃ children, v = .arr children ∧ ∃ child ∈ children, Overloads child)
  | .arr items => by
    rw [listOf,itemsFrom_overflow items 0]
    simp
  | .null | .bool _ | .int _ | .float _ | .str _ | .obj _ => by
    simp [listOf]

theorem itemsFrom_overflow : (items : List Json) → (place : Nat) → (itemsFrom place items = overflow ↔ ∃ child ∈ items, Overloads child)
  | [],_ => by simp [itemsFrom]
  | v :: rest,place => by
    rw [itemsFrom,zipWith_overflow,under_overflow,ofJson_overflow v,itemsFrom_overflow rest (place + 1)]
    simp

end

end Node

namespace Group

-- A group whose tree cannot be read.
def Overloads (v : Json) : Prop := ∃ fields, v = .obj fields ∧ Node.Burdened fields

theorem ofJson_overflow {v : Json} : ofJson v = overflow ↔ Overloads v := by
  cases v with
  | obj fields =>
    have joined : needed (.ofName "operator") Node.junctionOf fields ≠ overflow := needed_settled Node.junctionOf_settles
    rw [ofJson,zipWith_overflow,Node.childrenOf_get]
    cases held : Fields.get? "conditions" fields with
    | none => simp [joined,Overloads,Node.Burdened,held]
    | some v => simp [joined,Overloads,Node.Burdened,held,under_overflow,Node.listOf_overflow]
  | _ => simp [ofJson,Overloads]

-- What is read as a group, or as a leaf where it has a field and no children.
def Floods (v : Json) : Prop :=
  Overloads v ∨ ∃ fields, v = .obj fields ∧ Fields.has "field" fields = true ∧ Fields.has "conditions" fields = false ∧
    Condition.Overloads fields

theorem has_get (name : String) (fields : Fields) : Fields.has name fields = (fields.get? name).isSome := by
  rw [Bool.eq_iff_iff,Fields.has,Fields.get?,Option.isSome_map,List.any_eq_true,List.find?_isSome]

theorem ofInput_overflow {v : Json} : ofInput v = overflow ↔ Floods v := by
  cases v with
  | obj fields =>
    rw [ofInput]
    split
    · rename_i alone
      rw [Bool.and_eq_true,Bool.not_eq_true'] at alone
      obtain ⟨named,childless⟩ := alone
      have missing : Fields.get? "conditions" fields = none := by
        rw [has_get] at childless
        simpa using childless
      simp [map_overflow,Condition.ofFields_overflow,Floods,Overloads,Node.Burdened,missing,named,childless]
    · rename_i grouped
      rw [Bool.and_eq_true,Bool.not_eq_true'] at grouped
      rw [ofJson_overflow,Floods]
      constructor
      · exact Or.inl
      · intro far
        obtain group | ⟨_,same,named,childless,-⟩ := far
        · exact group
        · cases same
          exact absurd ⟨named,childless⟩ grouped
  | _ => simp [ofInput,ofJson,Floods,Overloads]

theorem parse_judges (root : String) (v : Json) : Judges (parse root v) (Floods v) := orFault_judges ofInput_overflow root

end Group
end OrderDesk
