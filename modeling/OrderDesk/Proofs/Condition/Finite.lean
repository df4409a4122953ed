import OrderDesk.Proofs.Condition.Normal
import OrderDesk.Proofs.Condition.Overload
import OrderDesk.Proofs.Condition.Ranking
import OrderDesk.Proofs.Condition.Tree

-- What a tree that is read looks like on the wire. Every leaf has the form that its operator asks for, apart
-- from this: the numbers in it are finite only where no leaf was given a number that is not, since NaN alone is
-- refused, and only as a bound.
namespace OrderDesk
open Checked Validation

namespace Number

theorem int_finite {n : Int} {x : Binary64} (converted : (int n).toFloat? = some x) : x.isFinite = true := by
  rcases toFloat_cases converted with same | ⟨m,same,nearest⟩
  · cases same
  · cases same
    have number := Binary64.ofInt_number n
    rw [← nearest] at number
    cases x with
    | nan => cases number
    | finite negative quanta held => rfl
    | infinite side =>
      have missing := toFloat_infinite.mpr ⟨n,side,rfl,nearest.symm⟩
      rw [converted] at missing
      cases missing

end Number

-- The constants that an operator may have beside it, when its numbers have a property.
inductive Holds (P : Binary64 → Prop) : String → Json → Prop where
  | ordered {operator : String} {bound : Binary64} (orders : operator ∈ ["lt","lte","gt","gte"])
      (number : bound.isNaN = false) (held : P bound) : Holds P operator (.float bound)
  | range {low high : Binary64} (first : P low) (last : P high) (order : (Number.float low).le (.float high) = true) :
      Holds P "between" (.arr [.float low,.float high])
  | text {operator : String} (equates : operator ∈ ["eq","ne"]) (s : String) : Holds P operator (.str s)
  | number {operator : String} {x : Binary64} (equates : operator ∈ ["eq","ne"]) (held : P x) : Holds P operator (.float x)

inductive Formed (P : Binary64 → Prop) : Json → Prop where
  | leaf {field operator : String} {value : Json} (named : field ≠ "") (holds : Holds P operator value) :
      Formed P (.obj [("field",.str field),("operator",.str operator),("value",value)])
  | group {operator : String} {children : List Json} (joins : operator ∈ ["AND","OR"])
      (held : ∀ child ∈ children, Formed P child) :
      Formed P (.obj [("operator",.str operator),("conditions",.arr children)])

-- The numbers in the constants of a leaf.
def numbersIn : Json → List Binary64
  | .float x => [x]
  | .arr [.float low,.float high] => [low,high]
  | _ => []

section
variable {P : Binary64 → Prop}

theorem Holds.numbers {operator : String} {v : Json} (holds : Holds P operator v) : ∀ x ∈ numbersIn v, P x := by
  cases holds with
  | ordered orders number held | number equates held => simpa [numbersIn] using held
  | text equates s => simp [numbersIn]
  | range first last order => simpa [numbersIn] using ⟨first,last⟩

theorem Test.value_holds {t : Test} (admitted : t.Admitted) :
    Holds P t.operator.name t.value ↔ ∀ x ∈ numbersIn t.value, P x := by
  refine ⟨Holds.numbers,fun held => ?_⟩
  cases t with
  | equal c | different c =>
    cases c with
    | number x => exact .number (by simp [operator,Operator.name]) (held x List.mem_cons_self)
    | text s => exact .text (by simp [operator,Operator.name]) s
  | less bound | atMost bound | greater bound | atLeast bound =>
    exact .ordered (by simp [operator,Operator.name]) admitted (held bound List.mem_cons_self)
  | within low high =>
    obtain ⟨lowNumber,highNumber,order⟩ := admitted
    obtain ⟨_,compared⟩ := Number.compare_known (a:=.float low) rfl lowNumber highNumber
    refine .range (held low (by simp [numbersIn,value])) (held high (by simp [numbersIn,value])) ?_
    rw [Number.le_gt compared,order,Bool.not_false]

theorem formed_leaf {field operator : String} {value : Json} :
    Formed P (.obj [("field",.str field),("operator",.str operator),("value",value)]) ↔ field ≠ "" ∧ Holds P operator value := by
  refine ⟨fun formed => ?_,fun ⟨named,holds⟩ => .leaf named holds⟩
  generalize same : Json.obj _ = v at formed
  cases formed with
  | leaf named holds =>
    simp only [Json.obj.injEq,List.cons.injEq,Prod.mk.injEq,Json.str.injEq,true_and,and_true] at same
    obtain ⟨rfl,rfl,rfl⟩ := same
    exact ⟨named,holds⟩
  | group => simp at same

theorem formed_group {operator : String} {children : List Json} :
    Formed P (.obj [("operator",.str operator),("conditions",.arr children)]) ↔
      operator ∈ ["AND","OR"] ∧ ∀ child ∈ children, Formed P child := by
  refine ⟨fun formed => ?_,fun ⟨joins,held⟩ => .group joins held⟩
  generalize same : Json.obj _ = v at formed
  cases formed with
  | leaf => simp at same
  | group joins held =>
    simp only [Json.obj.injEq,List.cons.injEq,Prod.mk.injEq,Json.str.injEq,Json.arr.injEq,true_and,and_true] at same
    obtain ⟨rfl,rfl⟩ := same
    exact ⟨joins,held⟩

namespace Node

theorem toJsonList_map (children : List Node) : toJsonList children = children.map toJson := by
  induction children with
  | nil => rfl
  | cons child rest ih => rw [toJsonList,ih,List.map_cons]

-- An admitted tree is formed as far as its numbers allow.
theorem formed_iff {n : Node} (admitted : n.Admitted) :
    Formed P n.toJson ↔ ∀ c ∈ n.leaves, ∀ x ∈ numbersIn c.test.value, P x := by
  induction admitted with
  | leaf held =>
    rw [toJson,Condition.toJson,formed_leaf,Test.value_holds held.test,leaves,List.forall_mem_singleton]
    exact and_iff_right held.field
  | group junction held ih =>
    rename_i children
    have joins : junction.name ∈ ["AND","OR"] := by cases junction <;> simp [Junction.name]
    rw [toJson,formed_group,and_iff_right joins,toJsonList_map,List.forall_mem_map,leaves]
    simp only [mem_leavesOf]
    constructor
    · rintro formed c ⟨child,member,own⟩
      exact (ih child member).mp (formed child member) c own
    · intro numbers child member
      exact (ih child member).mpr fun c own => numbers c ⟨child,member,own⟩

end Node
end

-- What stands for no finite number.
inductive Json.Boundless : Json → Prop where
  | float {x : Binary64} (past : x.isFinite = false) : Boundless (.float x)
  | text {s : String} {x : Binary64} (read : Text.readFloat? s = some x) (past : x.isFinite = false) : Boundless (.str s)

theorem Json.boundless_float {x : Binary64} : (Json.float x).Boundless ↔ x.isFinite = false := by
  constructor
  · rintro ⟨past⟩
    exact past
  · exact .float

theorem Json.boundless_text {s : String} {x : Binary64} (read : Text.readFloat? s = some x) :
    (Json.str s).Boundless ↔ x.isFinite = false := by
  constructor
  · rintro (_ | ⟨again,past⟩)
    cases read.symm.trans again
    exact past
  · exact .text read

-- What an operator takes though it holds no finite number. Under equality a text is no number.
def Operator.Boundless (op : Operator) (v : Json) : Prop :=
  match op with
  | .eq | .ne => ∃ x, v = .float x ∧ x.isFinite = false
  | .between => ∃ low high, v = .arr [low,high] ∧ (low.Boundless ∨ high.Boundless)
  | .lt | .lte | .gt | .gte => v.Boundless

namespace Condition

theorem bound_finite {v : Json} {x : Binary64} : bound v = ok x → (x.isFinite = true ↔ ¬ v.Boundless) := by
  fun_cases bound v with
  | case2 n y converted =>
    intro read
    cases read
    have whole : ¬ (Json.int n).Boundless := by rintro ⟨⟩
    simp [whole,Number.int_finite converted]
  | case4 y =>
    intro read
    obtain ⟨rfl,-⟩ := notNaN_ok read
    simp [Json.boundless_float]
  | case5 s y found =>
    intro read
    obtain ⟨rfl,-⟩ := notNaN_ok read
    simp [Json.boundless_text found]
  | _ => simp

theorem constant_finite {op : Operator} {v : Json} {c : Constant} : constant op v = ok c →
    ((∀ x ∈ numbersIn (Test.ofConstant c), x.isFinite = true) ↔ ¬ ∃ x, v = .float x ∧ x.isFinite = false) := by
  fun_cases constant op v with
  | case1 n y converted =>
    intro read
    cases read
    simp [Test.ofConstant,numbersIn,Number.int_finite converted]
  | case3 | case4 =>
    intro read
    cases read
    simp [Test.ofConstant,numbersIn]
  | _ => simp

theorem range_finite {v : Json} {t : Test} (read : range v = ok t) :
    (∀ x ∈ numbersIn t.value, x.isFinite = true) ↔ ¬ Operator.Boundless .between v := by
  unfold range at read
  split at read
  · rename_i low high
    obtain ⟨x,readLow,rest⟩ := andThen_eq_ok.mp read
    obtain ⟨y,readHigh,ordered⟩ := andThen_eq_ok.mp rest
    split at ordered
    · simp at ordered
    · cases ordered
      simp [Test.value,numbersIn,bound_finite readLow,bound_finite readHigh,Operator.Boundless]
  · simp at read

theorem testBy_finite {op : Operator} {v : Json} {t : Test} (read : testBy op v = ok t) :
    (∀ x ∈ numbersIn t.value, x.isFinite = true) ↔ ¬ op.Boundless v := by
  cases op with
  | eq | ne =>
    obtain ⟨c,made,rfl⟩ := map_eq_ok.mp read
    exact constant_finite made
  | lt | lte | gt | gte =>
    obtain ⟨x,made,rfl⟩ := map_eq_ok.mp read
    simpa [Test.value,numbersIn,Operator.Boundless] using bound_finite made
  | between => exact range_finite read

-- A leaf whose value is no finite number, or has an end that is none.
def Boundless (fields : Fields) : Prop :=
  ∃ op name v, needed (.ofName "operator") operatorOf fields = ok op ∧ (Key.ofName "value").find? fields = some (name,v) ∧ op.Boundless v

theorem ofFields_finite {fields : Fields} {c : Condition} (read : ofFields fields = ok c) :
    (∀ x ∈ numbersIn c.test.value, x.isFinite = true) ↔ ¬ Boundless fields := by
  obtain ⟨field,test,-,readTest,rfl⟩ := zipWith_eq_ok.mp read
  unfold testOf at readTest
  split at readTest
  · rename_i op known
    obtain ⟨name,v,found,made⟩ := needed_eq_ok.mp readTest
    simp [testBy_finite made,Boundless,known,found]
  · cases readTest
  · split at readTest <;> cases readTest

end Condition

-- The leaves that a tree is given, at any depth.
inductive Node.Authored : Json → Fields → Prop where
  | leaf {fields : Fields} (alone : fields.get? "conditions" = none) : Authored (.obj fields) fields
  | group {fields own : Fields} {children : List Json} {child : Json} (held : fields.get? "conditions" = some (.arr children))
      (member : child ∈ children) (deeper : Authored child own) : Authored (.obj fields) own

-- A leaf alone, or those of the children.
inductive Group.Authored : Json → Fields → Prop where
  | alone {fields : Fields} (named : Fields.has "field" fields = true) (childless : Fields.has "conditions" fields = false) :
      Authored (.obj fields) fields
  | child {fields own : Fields} {children : List Json} {child : Json} (held : fields.get? "conditions" = some (.arr children))
      (member : child ∈ children) (deeper : Node.Authored child own) : Authored (.obj fields) own

-- No leaf is left out and none is made up.
structure Gathers (given : Fields → Prop) (leaves : List Condition) : Prop where
  every : ∀ own, given own → ∃ c ∈ leaves, Condition.ofFields own = ok c
  only : ∀ c ∈ leaves, ∃ own, given own ∧ Condition.ofFields own = ok c

namespace Gathers
variable {given others : Fields → Prop} {leaves rest : List Condition}

theorem same (gathers : Gathers given leaves) (same : ∀ own, others own ↔ given own) : Gathers others leaves := by
  have equal : others = given := funext fun own => propext (same own)
  rwa [equal]

theorem none : Gathers (fun _ => False) [] := ⟨fun _ absurd => absurd.elim,fun c member => by cases member⟩

theorem one {own : Fields} {c : Condition} (read : Condition.ofFields own = ok c) : Gathers (· = own) [c] := by
  constructor
  · rintro _ rfl
    exact ⟨c,List.mem_singleton_self c,read⟩
  · intro _ member
    rw [List.mem_singleton.mp member]
    exact ⟨own,rfl,read⟩

theorem both (first : Gathers given leaves) (last : Gathers others rest) :
    Gathers (fun own => given own ∨ others own) (leaves ++ rest) := by
  constructor
  · rintro own (held | held)
    · obtain ⟨c,member,read⟩ := first.every own held
      exact ⟨c,List.mem_append_left rest member,read⟩
    · obtain ⟨c,member,read⟩ := last.every own held
      exact ⟨c,List.mem_append_right leaves member,read⟩
  · intro c member
    rcases List.mem_append.mp member with member | member
    · obtain ⟨own,held,read⟩ := first.only c member
      exact ⟨own,Or.inl held,read⟩
    · obtain ⟨own,held,read⟩ := last.only c member
      exact ⟨own,Or.inr held,read⟩

theorem finite_iff (gathers : Gathers given leaves) : (∀ c ∈ leaves, ∀ x ∈ numbersIn c.test.value, x.isFinite = true) ↔
    ∀ own, given own → ¬ Condition.Boundless own := by
  constructor
  · intro finite own held
    obtain ⟨c,member,read⟩ := gathers.every own held
    exact (Condition.ofFields_finite read).mp (finite c member)
  · intro bounded c member
    obtain ⟨own,held,read⟩ := gathers.only c member
    exact (Condition.ofFields_finite read).mpr (bounded own held)

end Gathers

namespace Node

theorem authored_leaf {fields own : Fields} (alone : fields.get? "conditions" = none) :
    Authored (.obj fields) own ↔ own = fields := by
  constructor
  · intro given
    cases given with
    | leaf => rfl
    | group held =>
      rw [alone] at held
      cases held
  · rintro rfl
    exact .leaf alone

-- The leaves under the children that a field holds.
def Below (fields own : Fields) : Prop :=
  ∃ children, fields.get? "conditions" = some (.arr children) ∧ ∃ child ∈ children, Authored child own

theorem authored_group {fields own : Fields} {v : Json} (held : fields.get? "conditions" = some v) :
    Authored (.obj fields) own ↔ Below fields own := by
  constructor
  · intro given
    cases given with
    | leaf alone =>
      rw [held] at alone
      cases alone
    | group own member deeper => exact ⟨_,own,_,member,deeper⟩
  · rintro ⟨children,own,child,member,deeper⟩
    exact .group own member deeper

mutual

theorem ofJson_gathers : (v : Json) → {n : Node} → ofJson v = ok n → Gathers (Authored v) n.leaves
  | .obj fields,n,read => by
    cases held : Fields.get? "conditions" fields with
    | none =>
      have alone : childrenOf? fields = none := by rw [childrenOf_get,held,Option.map_none]
      rw [ofJson,alone] at read
      obtain ⟨c,leafRead,rfl⟩ := map_eq_ok.mp read
      exact (Gathers.one leafRead).same fun own => authored_leaf held
    | some v =>
      have own : childrenOf? fields = some (listOf v) := by rw [childrenOf_get,held,Option.map_some]
      rw [ofJson,own] at read
      obtain ⟨junction,items,-,taken,rfl⟩ := zipWith_eq_ok.mp read
      exact (childrenOf_gathers fields own (under_eq_ok.mp taken)).same fun own => authored_group held
  | .null,_,read | .bool _,_,read | .int _,_,read | .float _,_,read | .str _,_,read | .arr _,_,read => by
    simp [ofJson] at read

theorem childrenOf_gathers : (fields : List (String × Json)) → {children : Checked (List Node)} → {items : List Node} →
    childrenOf? fields = some children → children = ok items → Gathers (Below fields) (leavesOf items)
  | [],_,_,found,_ => by simp [childrenOf?] at found
  | (key,v) :: rest,children,items,found,taken => by
    rw [childrenOf?] at found
    split at found
    · rename_i same
      cases found
      refine (listOf_gathers v taken).same fun own => ?_
      rw [Below,get_cons,if_pos (eq_of_beq same)]
      simp
    · rename_i other
      refine (childrenOf_gathers rest found taken).same fun own => ?_
      rw [Below,Below,get_cons,if_neg (fun same => other (beq_iff_eq.mpr same))]

theorem listOf_gathers : (v : Json) → {items : List Node} → listOf v = ok items →
    Gathers (fun own => ∃ children, v = .arr children ∧ ∃ child ∈ children, Authored child own) (leavesOf items)
  | .arr given,_,read => by
    rw [listOf] at read
    exact (itemsFrom_gathers given 0 read).same fun own => by simp
  | .null,_,read | .bool _,_,read | .int _,_,read | .float _,_,read | .str _,_,read | .obj _,_,read => by
    simp [listOf] at read

theorem itemsFrom_gathers : (given : List Json) → (place : Nat) → {items : List Node} → itemsFrom place given = ok items →
    Gathers (fun own => ∃ child ∈ given, Authored child own) (leavesOf items)
  | [],_,_,read => by
    rw [itemsFrom] at read
    cases read
    exact Gathers.none.same fun own => by simp
  | v :: rest,place,items,read => by
    rw [itemsFrom] at read
    obtain ⟨first,others,firstRead,othersRead,rfl⟩ := zipWith_eq_ok.mp read
    rw [leavesOf]
    refine ((ofJson_gathers v (under_eq_ok.mp firstRead)).both (itemsFrom_gathers rest (place + 1) othersRead)).same fun own => ?_
    simp

end

end Node

namespace Group

theorem authored_alone {fields own : Fields} (named : Fields.has "field" fields = true)
    (childless : Fields.has "conditions" fields = false) : Authored (.obj fields) own ↔ own = fields := by
  constructor
  · intro given
    cases given with
    | alone => rfl
    | child held =>
      rw [has_get,held] at childless
      cases childless
  · rintro rfl
    exact .alone named childless

theorem authored_below {fields own : Fields} (grouped : ¬ (Fields.has "field" fields = true ∧ Fields.has "conditions" fields = false)) :
    Authored (.obj fields) own ↔ Node.Below fields own := by
  constructor
  · intro given
    cases given with
    | alone named childless => exact absurd ⟨named,childless⟩ grouped
    | child held member deeper => exact ⟨_,held,_,member,deeper⟩
  · rintro ⟨children,held,child,member,deeper⟩
    exact .child held member deeper

theorem ofJson_gathers {fields : Fields} {g : Group} (read : ofJson (.obj fields) = ok g) :
    Gathers (Node.Below fields) g.leaves := by
  obtain ⟨junction,items,-,taken,rfl⟩ := zipWith_eq_ok.mp read
  split at taken
  · rename_i children found
    exact Node.childrenOf_gathers fields found (under_eq_ok.mp taken)
  · rename_i missing
    cases taken
    rw [Node.childrenOf_get,Option.map_eq_none_iff] at missing
    exact Gathers.none.same fun own => by simp [Node.Below,missing]

theorem ofInput_gathers {v : Json} {g : Group} (read : ofInput v = ok g) : Gathers (Authored v) g.leaves := by
  cases v with
  | obj fields =>
    rw [ofInput] at read
    split at read
    · rename_i alone
      rw [Bool.and_eq_true,Bool.not_eq_true'] at alone
      obtain ⟨c,leafRead,rfl⟩ := map_eq_ok.mp read
      exact (Gathers.one leafRead).same fun own => authored_alone alone.1 alone.2
    · rename_i grouped
      rw [Bool.and_eq_true,Bool.not_eq_true'] at grouped
      exact (ofJson_gathers read).same fun own => authored_below grouped
  | _ => simp [ofInput,ofJson] at read

theorem parse_formed {root : String} {v : Json} {g : Group} (read : parse root v = .ok g) :
    Formed (fun _ => True) g.toJson ∧
      (Formed (fun x => x.isFinite = true) g.toJson ↔ ∀ own, Authored v own → ¬ Condition.Boundless own) := by
  have admitted : g.node.Admitted := node_admitted.mpr (parse_admitted read)
  have gathers : Gathers (Authored v) g.leaves := ofInput_gathers (orFault_eq_ok.mp read)
  constructor
  · exact (Node.formed_iff admitted).mpr fun c member x own => trivial
  · exact (Node.formed_iff admitted).trans gathers.finite_iff

-- Every price is below this bound.
def unbounded : Json := .obj [("field",.str "price"),("operator",.str "<"),("value",.str " inf ")]

theorem unbounded_formed : ∃ g, parse "conditions" unbounded = .ok g ∧ Formed (fun _ => True) g.toJson ∧
    ¬ Formed (fun x => x.isFinite = true) g.toJson := by
  have taken : (parse "conditions" unbounded).toOption.isSome = true := by decide +kernel
  obtain ⟨g,found⟩ := Option.isSome_iff_exists.mp taken
  have read : parse "conditions" unbounded = .ok g := toOption_eq_some.mp found
  obtain ⟨formed,finite⟩ := parse_formed read
  have sign : ((Condition.operatorOf (.str "<")).orFault "").toOption = some .lt := by decide +kernel
  have known : Condition.operatorOf (.str "<") = ok .lt := orFault_eq_ok.mp (toOption_eq_some.mp sign)
  refine ⟨g,read,formed,fun held => finite.mp held _ (.alone rfl rfl) ?_⟩
  refine ⟨.lt,"value",.str " inf ",needed_eq_ok.mpr ⟨"operator",.str "<",rfl,known⟩,rfl,?_⟩
  exact .text (x:=.infinite false) (by decide +kernel) rfl

end Group
end OrderDesk
