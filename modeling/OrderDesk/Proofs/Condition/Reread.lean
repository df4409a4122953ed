import OrderDesk.Condition.Decode
import OrderDesk.Condition.Encode
import OrderDesk.Proofs.Numeric.Comparison
import OrderDesk.Proofs.Validation.Reread

-- Condition trees that reading lets through, and that it takes back as they are written.
namespace OrderDesk
open Checked Validation

-- Bounds are never NaN, ranges are in order.
def Test.Admitted : Test → Prop
  | equal _ | different _ => True
  | less bound | atMost bound | greater bound | atLeast bound => bound.isNaN = false
  | within low high => low.isNaN = false ∧ high.isNaN = false ∧ (Number.float low).gt (.float high) = false

structure Condition.Admitted (c : Condition) : Prop where
  field : c.field ≠ ""
  test : c.test.Admitted

inductive Node.Admitted : Node → Prop where
  | leaf {condition : Condition} (held : condition.Admitted) : Admitted (.leaf condition)
  | group (junction : Junction) {children : List Node} (held : ∀ child ∈ children, Admitted child) :
      Admitted (.group junction children)

def Group.Admitted (g : Group) : Prop := ∀ child ∈ g.children, child.Admitted

namespace Condition

theorem notNaN_ok {x y : Binary64} (read : bound.notNaN x = ok y) : y = x ∧ x.isNaN = false := by
  unfold bound.notNaN at read
  split at read
  · simp at read
  · rename_i number
    cases read
    exact ⟨rfl,by simpa using number⟩

theorem bound_ok {v : Json} {x : Binary64} : bound v = ok x → x.isNaN = false := by
  fun_cases bound v with
  | case1 b => simp
  | case2 n y found =>
    intro read
    cases read
    rcases Number.toFloat_number found with same | number
    · cases same
    · exact number
  | case3 n huge =>
    intro read
    cases read
  | case4 y =>
    intro read
    obtain ⟨rfl,number⟩ := notNaN_ok read
    exact number
  | case5 s y found =>
    intro read
    obtain ⟨rfl,number⟩ := notNaN_ok read
    exact number
  | case6 s unreadable => simp
  | case7 => simp

theorem bound_float (x : Binary64) : bound (.float x) = bound.notNaN x := rfl

theorem bound_written {x : Binary64} (number : x.isNaN = false) : bound (.float x) = ok x := by
  simp [bound_float,bound.notNaN,number]

theorem testBy_admitted {op : Operator} {v : Json} {t : Test} (read : testBy op v = ok t) :
    t.operator = op ∧ t.Admitted := by
  cases op with
  | eq =>
    obtain ⟨c,-,rfl⟩ := map_eq_ok.mp read
    exact ⟨rfl,trivial⟩
  | ne =>
    obtain ⟨c,-,rfl⟩ := map_eq_ok.mp read
    exact ⟨rfl,trivial⟩
  | lt | lte | gt | gte =>
    obtain ⟨x,number,rfl⟩ := map_eq_ok.mp read
    exact ⟨rfl,bound_ok number⟩
  | between =>
    simp only [testBy] at read
    unfold range at read
    split at read
    · obtain ⟨low,readLow,rest⟩ := andThen_eq_ok.mp read
      obtain ⟨high,readHigh,ordered⟩ := andThen_eq_ok.mp rest
      split at ordered
      · simp at ordered
      · rename_i order
        cases ordered
        exact ⟨rfl,bound_ok readLow,bound_ok readHigh,by simpa using order⟩
    · simp at read

theorem testBy_written {t : Test} (admitted : t.Admitted) : testBy t.operator t.value = ok t := by
  cases t with
  | equal c | different c => cases c <;> rfl
  | less x | atMost x | greater x | atLeast x =>
    simp only [Test.operator,Test.value,testBy,bound_written admitted,map_ok]
  | within low high =>
    obtain ⟨lowNumber,highNumber,order⟩ := admitted
    simp [Test.operator,Test.value,testBy,range,bound_written lowNumber,bound_written highNumber,order]

theorem operator_lower (op : Operator) : Text.lowerAscii (Text.strip op.name) = op.name := by
  cases op <;> decide +kernel

theorem operator_written (op : Operator) : operatorOf (.str op.name) = ok op := by
  simp only [operatorOf,operator_lower]
  cases op <;> rfl

theorem ofFields_admitted {fields : Fields} {c : Condition} (read : ofFields fields = ok c) : c.Admitted := by
  obtain ⟨field,test,readField,readTest,rfl⟩ := zipWith_eq_ok.mp read
  obtain ⟨v,text⟩ := needed_ok readField
  refine ⟨nonEmpty_ok text,?_⟩
  unfold testOf at readTest
  split at readTest
  · obtain ⟨v,made⟩ := needed_ok readTest
    exact (testBy_admitted made).2
  · cases readTest
  · split at readTest <;> cases readTest

-- A leaf has these three fields and no children.
def fields (c : Condition) : Fields :=
  [("field",.str c.field),("operator",.str c.test.operator.name),("value",c.test.value)]

theorem ofFields_written {c : Condition} (admitted : c.Admitted) : ofFields c.fields = ok c := by
  have readField : nonEmptyText (.str c.field) = ok c.field := by simp [nonEmptyText,text,admitted.field]
  simp [ofFields,testOf,needed,Key.find?,Key.ofName,Fields.get?,fields,readField,operator_written,
    testBy_written admitted.test]

end Condition

namespace Node

mutual

theorem ofJson_admitted : (v : Json) → {n : Node} → ofJson v = ok n → n.Admitted
  | .obj fields,n,read => by
    rw [ofJson] at read
    split at read
    · rename_i children found
      obtain ⟨junction,items,-,taken,rfl⟩ := zipWith_eq_ok.mp read
      exact .group junction (childrenOf_admitted fields found (under_eq_ok.mp taken))
    · obtain ⟨condition,leafRead,rfl⟩ := map_eq_ok.mp read
      exact .leaf (Condition.ofFields_admitted leafRead)
  | .null,_,read | .bool _,_,read | .int _,_,read | .float _,_,read | .str _,_,read | .arr _,_,read => by
    simp [ofJson] at read

theorem childrenOf_admitted : (fields : List (String × Json)) → {children : Checked (List Node)} → {items : List Node} →
    childrenOf? fields = some children → children = ok items → ∀ child ∈ items, child.Admitted
  | [],_,_,found,_ => by simp [childrenOf?] at found
  | (key,v) :: rest,children,items,found,taken => by
    rw [childrenOf?] at found
    split at found
    · cases found
      exact listOf_admitted v taken
    · exact childrenOf_admitted rest found taken

theorem listOf_admitted : (v : Json) → {items : List Node} → listOf v = ok items → ∀ child ∈ items, child.Admitted
  | .arr given,_,read => by
    rw [listOf] at read
    exact itemsFrom_admitted given 0 read
  | .null,_,read | .bool _,_,read | .int _,_,read | .float _,_,read | .str _,_,read | .obj _,_,read => by
    simp [listOf] at read

theorem itemsFrom_admitted : (given : List Json) → (place : Nat) → {items : List Node} →
    itemsFrom place given = ok items → ∀ child ∈ items, child.Admitted
  | [],_,_,read => by
    rw [itemsFrom] at read
    cases read
    simp
  | v :: rest,place,items,read => by
    rw [itemsFrom] at read
    obtain ⟨first,others,firstRead,othersRead,rfl⟩ := zipWith_eq_ok.mp read
    intro child member
    rcases List.mem_cons.mp member with rfl | later
    · exact ofJson_admitted v (under_eq_ok.mp firstRead)
    · exact itemsFrom_admitted rest (place + 1) othersRead child later

end

theorem junction_upper (junction : Junction) : Text.upper (Text.strip junction.name) = junction.name := by
  cases junction <;> decide +kernel

theorem junction_written (junction : Junction) : junctionOf (.str junction.name) = ok junction := by
  simp only [junctionOf,junction_upper]
  cases junction <;> rfl

theorem itemsFrom_written (children : List Node) (again : ∀ child ∈ children, ofJson child.toJson = ok child)
    (place : Nat) : itemsFrom place (toJsonList children) = ok children := by
  induction children generalizing place with
  | nil => simp [toJsonList,itemsFrom]
  | cons child rest ih =>
    have first := again child List.mem_cons_self
    have others := ih (fun other member => again other (List.mem_cons_of_mem child member)) (place + 1)
    simp [toJsonList,itemsFrom,first,others]

theorem childrenOf_written (junction : Junction) (children : List Node)
    (again : ∀ child ∈ children, ofJson child.toJson = ok child) :
    childrenOf? [("operator",.str junction.name),("conditions",.arr (toJsonList children))] = some (ok children) := by
  simp [childrenOf?,listOf,itemsFrom_written children again]

theorem ofJson_written {n : Node} (admitted : n.Admitted) : ofJson n.toJson = ok n := by
  induction admitted with
  | leaf held =>
    rename_i condition
    have alone : childrenOf? condition.fields = none := by simp [Condition.fields,childrenOf?]
    have written : (Node.leaf condition).toJson = .obj condition.fields := by simp [toJson,Condition.toJson,Condition.fields]
    simp [written,ofJson,alone,Condition.ofFields_written held]
  | group junction held ih =>
    rename_i children
    simp [toJson,ofJson,childrenOf_written junction children ih,needed,Key.find?,Key.ofName,Fields.get?,junction_written]

end Node

namespace Group

theorem ofJson_admitted {v : Json} {g : Group} (read : ofJson v = ok g) : g.Admitted := by
  unfold ofJson at read
  split at read
  · rename_i fields
    obtain ⟨junction,children,-,taken,rfl⟩ := zipWith_eq_ok.mp read
    split at taken
    · rename_i items found
      exact Node.childrenOf_admitted fields found (under_eq_ok.mp taken)
    · cases taken
      intro child member
      cases member
  · simp at read

theorem ofJson_written {g : Group} (admitted : g.Admitted) : ofJson g.toJson = ok g := by
  have again : ∀ child ∈ g.children, Node.ofJson child.toJson = ok child :=
    fun child member => Node.ofJson_written (admitted child member)
  simp [toJson,node,Node.toJson,ofJson,Node.childrenOf_written g.junction g.children again,needed,Key.find?,Key.ofName,
    Fields.get?,Node.junction_written]

theorem rereads : Rereads ofJson toJson := fun _ _ read => ofJson_written (ofJson_admitted read)

-- As input the text of a group is not mistaken for a leaf.
theorem ofInput_written {g : Group} (admitted : g.Admitted) : ofInput g.toJson = ok g := by
  have read := ofJson_written admitted
  simp only [toJson,node,Node.toJson] at read ⊢
  simp [ofInput,Fields.has,read]

theorem toJson_value (g : Group) : g.toJson ≠ .null := by
  simp [toJson,node,Node.toJson]

end Group
end OrderDesk
