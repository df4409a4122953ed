import OrderDesk.Proofs.Condition.Overload
import OrderDesk.Proofs.Condition.Parts

-- What is found fault with in a condition tree. The parts of a tree stand in the order of the document, and the
-- place that a refusal names is that of the first one that does not pass.
namespace OrderDesk
open Checked Validation

namespace Condition

theorem notNaN_bare (x : Binary64) : (bound.notNaN x).Bare := by
  unfold bound.notNaN
  split
  · exact bare_rule _
  · exact bare_ok x

theorem bound_bare (v : Json) : (bound v).Bare := by
  fun_cases bound v with
  | case2 n x near => exact bare_ok x
  | case3 n far => exact bare_overflow
  | case4 x => exact notNaN_bare x
  | case5 s x found => exact notNaN_bare x
  | _ => exact bare_rule _

theorem constant_bare (op : Operator) (v : Json) : (constant op v).Bare := by
  fun_cases constant op v with
  | case2 n far => exact bare_overflow
  | case5 v other => exact bare_rule _
  | _ => exact bare_ok _

theorem range_bare (v : Json) : (range v).Bare := by
  unfold range
  split
  · apply (bound_bare _).andThen
    intro low
    apply (bound_bare _).andThen
    intro high
    split
    · exact bare_rule _
    · exact bare_ok _
  · exact bare_rule _

theorem testBy_bare (op : Operator) (v : Json) : (testBy op v).Bare := by
  cases op with
  | eq | ne => exact (constant_bare _ v).map
  | lt | lte | gt | gte => exact (bound_bare v).map
  | between => exact range_bare v

theorem operatorOf_bare (v : Json) : (operatorOf v).Bare := by
  unfold operatorOf
  split
  · dsimp only
    split
    · exact bare_ok _
    · exact choice_bare _ _
  · exact choice_bare _ _

end Condition

theorem Node.junctionOf_bare (v : Json) : (junctionOf v).Bare := by
  unfold junctionOf
  split <;> exact choice_bare _ _

-- Sorted parts, none of which is the whole.
structure Part.Below (parts : List Part) : Prop where
  sorted : Part.Sorted parts
  inner : ∀ part ∈ parts, Before [] part.path

theorem Part.Below.under {parts : List Part} {part : Part} (below : Part.Below parts) (whole : part.path = []) :
    Part.Sorted (part :: parts) :=
  List.pairwise_cons.mpr ⟨fun other member => whole ▸ below.inner other member,below.sorted⟩

-- The parts of a tree, a whole before its parts: of a leaf the field, the operator, and a value for the operator; of a group the
-- operator, the list of its children, and the children from left to right.

def Part.record (name : String) : Part := .ofCheck [] (Validation.record name fun _ => ok ()) (by
  intro v
  cases v with
  | obj fields => exact bare_ok ()
  | _ => exact bare_refuse nofun)

def Part.list : Part := .ofCheck [] (fun | .arr _ => ok () | _ => refuse .notList) (by
  intro v
  cases v with
  | arr items => exact bare_ok ()
  | _ => exact bare_refuse nofun)

namespace Condition

def valueParts : Checked Operator → List Part
  | ok op => [.ofCheck [.key "value"] (testBy op) (testBy_bare op)]
  | _ => []

def parts (fields : Fields) : List Part :=
  .ofCheck [.key "field"] nonEmptyText nonEmpty_bare :: .ofCheck [.key "operator"] operatorOf operatorOf_bare ::
    valueParts (asked operatorOf (fields.get? "operator"))

theorem testOf_tells (fields : Fields) : (testOf fields).Tells (.obj fields)
    (.ofCheck [.key "operator"] operatorOf operatorOf_bare :: valueParts (asked operatorOf (fields.get? "operator"))) := by
  have told : (needed (.ofName "operator") operatorOf fields).Tells (.obj fields) [.ofCheck [.key "operator"] operatorOf operatorOf_bare] :=
    needed_tells operatorOf_bare (by decide) fields
  have known : needed (.ofName "operator") operatorOf fields ≠ overflow := needed_settled operatorOf_settles
  rw [testOf]
  rw [needed_asked] at told known ⊢
  cases read : asked operatorOf (fields.get? "operator") with
  | ok op =>
    rw [read] at told
    exact (needed_tells (testBy_bare op) (by decide) fields).cons (told _ (List.mem_singleton_self _))
  | overflow => exact absurd (congrArg (Checked.under (.key "operator")) read) known
  | invalid first rest =>
    -- The value is looked at as well, but what is said of it comes after.
    have settled : needed (.ofName "value") anyValue fields ≠ overflow := needed_settled anyValue_settles
    rw [read] at told
    dsimp only [under]
    cases value : needed (.ofName "value") anyValue fields with
    | overflow => exact absurd value settled
    | _ => exact told

theorem ofFields_tells (fields : Fields) : (ofFields fields).Tells (.obj fields) (parts fields) :=
  (needed_tells nonEmpty_bare (by decide) fields).zipWith (testOf_tells fields)

theorem parts_below (fields : Fields) : Part.Below (parts fields) := by
  have named : Before [.key "field"] [.key "operator"] := .apart (by simp [PathStep.Ahead])
  have subject : Before [.key "field"] [.key "value"] := .apart (by simp [PathStep.Ahead])
  have compared : Before [.key "operator"] [.key "value"] := .apart (by simp [PathStep.Ahead])
  unfold parts
  cases asked operatorOf (fields.get? "operator") with
  | ok op =>
    constructor
    · simp [valueParts,Part.Sorted,Part.ofCheck,named,subject,compared]
    · simp [valueParts,Part.ofCheck,Before.whole]
  | _ =>
    constructor
    · simp [valueParts,Part.Sorted,Part.ofCheck,named]
    · simp [valueParts,Part.ofCheck,Before.whole]

end Condition

namespace Node

def groupParts (children : List Part) : List Part :=
  .ofCheck [.key "operator"] junctionOf junctionOf_bare :: children.map (Part.inside (.key "conditions"))

mutual

def parts : Json → List Part
  | .obj fields => .record "Condition" :: match childParts? fields with
    | some children => groupParts children
    | none => Condition.parts fields
  | _ => [.record "Condition"]

def childParts? : List (String × Json) → Option (List Part)
  | [] => none
  | (key,v) :: rest => if key == "conditions" then some (listParts v) else childParts? rest

def listParts : Json → List Part
  | .arr items => .list :: itemParts 0 items
  | _ => [.list]

def itemParts : Nat → List Json → List Part
  | _,[] => []
  | place,v :: rest => (parts v).map (Part.inside (.index place)) ++ itemParts (place + 1) rest

end

theorem groupParts_below {children : List Part} (sorted : Part.Sorted children) : Part.Below (groupParts children) := by
  constructor
  · apply List.pairwise_cons.mpr
    refine ⟨?_,sorted.inside _⟩
    intro part member
    obtain ⟨own,-,rfl⟩ := List.mem_map.mp member
    exact .apart (by simp [PathStep.Ahead])
  · intro part member
    cases List.mem_cons.mp member with
    | inl first => exact first ▸ .whole
    | inr later =>
      obtain ⟨own,-,rfl⟩ := List.mem_map.mp later
      exact .whole

-- The parts of items stand below their places.
theorem itemParts_places {items : List Json} {place : Nat} {part : Part} (member : part ∈ itemParts place items) :
    ∃ next rest, part.path = .index next :: rest ∧ place ≤ next := by
  induction items generalizing place with
  | nil =>
    rw [itemParts] at member
    cases member
  | cons v rest ih =>
    rw [itemParts,List.mem_append] at member
    cases member with
    | inl first =>
      obtain ⟨own,-,rfl⟩ := List.mem_map.mp first
      exact ⟨place,own.path,rfl,Nat.le_refl place⟩
    | inr later =>
      obtain ⟨next,path,same,beyond⟩ := ih later
      exact ⟨next,path,same,by omega⟩

theorem childParts_get (fields : Fields) : childParts? fields = (fields.get? "conditions").map listParts := by
  induction fields with
  | nil => simp [childParts?,Fields.get?]
  | cons field rest ih =>
    rw [childParts?,get_cons,ih]
    simp only [beq_iff_eq]
    split <;> rfl

mutual

theorem ofJson_tells : (v : Json) → (ofJson v).Tells v (parts v)
  | .obj fields => by
    rw [ofJson,parts]
    apply Tells.cons rfl
    cases held : Fields.get? "conditions" fields with
    | none =>
      have alone : childrenOf? fields = none := by rw [childrenOf_get,held,Option.map_none]
      have bare : childParts? fields = none := by rw [childParts_get,held,Option.map_none]
      rw [alone,bare]
      exact (Condition.ofFields_tells fields).map
    | some v =>
      have own : childrenOf? fields = some (listOf v) := by rw [childrenOf_get,held,Option.map_some]
      have part : childParts? fields = some (listParts v) := by rw [childParts_get,held,Option.map_some]
      have found : (Json.obj fields).step? (.key "conditions") = some v := held
      rw [own,part]
      exact (needed_tells junctionOf_bare (by decide) fields).zipWith ((childrenOf_tells fields held).under (by decide) found)
  | .null | .bool _ | .int _ | .float _ | .str _ | .arr _ => by
    rw [ofJson,parts]
    · exact Part.First.alone ⟨rfl,.here,rfl⟩
    · simp
    · simp

theorem childrenOf_tells : (fields : List (String × Json)) → {v : Json} → Fields.get? "conditions" fields = some v →
    (listOf v).Tells v (listParts v)
  | [],_,held => by simp [Fields.get?] at held
  | (key,v) :: rest,_,held => by
    rw [get_cons] at held
    split at held
    · cases held
      exact listOf_tells v
    · exact childrenOf_tells rest held

theorem listOf_tells : (v : Json) → (listOf v).Tells v (listParts v)
  | .arr items => by
    rw [listOf,listParts]
    exact (itemsFrom_tells items [] rfl).cons rfl
  | .null | .bool _ | .int _ | .float _ | .str _ | .obj _ => by
    rw [listOf,listParts]
    · exact Part.First.alone ⟨rfl,.here,rfl⟩
    · simp
    · simp

-- Of a list, the first items are read already.
theorem itemsFrom_tells : (items : List Json) → {place : Nat} → (read : List Json) → read.length = place →
    (itemsFrom place items).Tells (.arr (read ++ items)) (itemParts place items)
  | [],_,_,_ => by
    rw [itemsFrom,itemParts]
    exact List.forall_mem_nil _
  | v :: rest,place,read,many => by
    have found : (Json.arr (read ++ v :: rest)).step? (.index place) = some v := by simp [Json.step?,← many]
    have others := itemsFrom_tells rest (read ++ [v]) (by rw [List.length_append,many,List.length_singleton])
    rw [List.append_assoc,List.singleton_append] at others
    rw [itemsFrom,itemParts]
    have known : (PathStep.index place).Known := trivial
    exact ((ofJson_tells v).under known found).zipWith others

end

mutual

theorem parts_sorted : (v : Json) → Part.Sorted (parts v)
  | .obj fields => by
    rw [parts]
    cases held : childParts? fields with
    | none => exact (Condition.parts_below fields).under rfl
    | some children => exact (groupParts_below (childParts_sorted fields held)).under rfl
  | .null | .bool _ | .int _ | .float _ | .str _ | .arr _ => by
    rw [parts]
    · exact List.pairwise_singleton _ _
    · simp

theorem childParts_sorted : (fields : List (String × Json)) → {children : List Part} → childParts? fields = some children →
    Part.Sorted children
  | [],_,held => by simp [childParts?] at held
  | (key,v) :: rest,_,held => by
    rw [childParts?] at held
    split at held
    · cases held
      exact listParts_sorted v
    · exact childParts_sorted rest held

theorem listParts_sorted : (v : Json) → Part.Sorted (listParts v)
  | .arr items => by
    rw [listParts]
    refine Part.Below.under ⟨itemParts_sorted items 0,?_⟩ rfl
    intro part member
    obtain ⟨place,rest,same,-⟩ := itemParts_places member
    exact same ▸ .whole
  | .null | .bool _ | .int _ | .float _ | .str _ | .obj _ => by
    rw [listParts]
    · exact List.pairwise_singleton _ _
    · simp

theorem itemParts_sorted : (items : List Json) → (place : Nat) → Part.Sorted (itemParts place items)
  | [],_ => by
    rw [itemParts]
    exact .nil
  | v :: rest,place => by
    rw [itemParts]
    apply List.pairwise_append.mpr
    refine ⟨(parts_sorted v).inside _,itemParts_sorted rest (place + 1),?_⟩
    intro one first other later
    obtain ⟨own,-,rfl⟩ := List.mem_map.mp first
    obtain ⟨next,path,same,beyond⟩ := itemParts_places later
    rw [same]
    exact .apart beyond

end

end Node

namespace Group

def parts : Json → List Part
  | .obj fields => .record "ConditionGroup" ::
    if Fields.has "field" fields && !Fields.has "conditions" fields then Condition.parts fields
    else Node.groupParts ((Node.childParts? fields).getD [])
  | _ => [.record "ConditionGroup"]

theorem ofJson_tells (fields : Fields) :
    (ofJson (.obj fields)).Tells (.obj fields) (Node.groupParts ((Node.childParts? fields).getD [])) := by
  have joined := needed_tells Node.junctionOf_bare (by decide : (PathStep.key "operator").Known) fields
  rw [ofJson,Node.childrenOf_get,Node.childParts_get]
  cases held : Fields.get? "conditions" fields with
  | none => exact joined.zipWith (List.forall_mem_nil _)
  | some v =>
    have found : (Json.obj fields).step? (.key "conditions") = some v := held
    exact joined.zipWith ((Node.childrenOf_tells fields held).under (by decide) found)

theorem ofInput_tells (v : Json) : (ofInput v).Tells v (parts v) := by
  cases v with
  | obj fields =>
    rw [ofInput,parts]
    apply Tells.cons rfl
    split
    · exact (Condition.ofFields_tells fields).map
    · exact ofJson_tells fields
  | _ => exact Part.First.alone ⟨rfl,.here,rfl⟩

theorem parts_sorted (v : Json) : Part.Sorted (parts v) := by
  cases v with
  | obj fields =>
    rw [parts]
    split
    · exact (Condition.parts_below fields).under rfl
    · apply Part.Below.under _ rfl
      apply Node.groupParts_below
      rw [Node.childParts_get]
      cases Fields.get? "conditions" fields with
      | none => exact .nil
      | some v => exact Node.listParts_sorted v
  | _ => exact List.pairwise_singleton _ _

-- A refusal as a caller sees it, and the issue behind it.
structure Blames (root : String) (raw : Json) (field message : String) (issue : Issue) : Prop where
  -- The field is the path of the issue in dots, the message what the issue comes to,
  place : field = ".".intercalate (root :: issue.path.map PathStep.text)
  told : message = issue.summary
  -- the path is there, except for a field at its end,
  leads : raw.Leads issue.path
  -- what stands there does not pass its check, and all that comes before it does,
  fails : ∃ part ∈ parts raw, part.Fails raw issue
  earlier : ∀ part ∈ parts raw, Before part.path issue.path → part.verdict raw = ok ()
  -- and a field is called missing where there is none, and nowhere else.
  missing : message = "required field is missing" ↔ raw.Lacks issue.path

theorem parse_blames {root field message : String} {raw : Json} (named : root ≠ "")
    (refused : parse root raw = .error (.invalid field message)) : ∃ issue, Blames root raw field message issue := by
  have tells := ofInput_tells raw
  rw [parse] at refused
  cases read : ofInput raw with
  | ok g =>
    rw [read] at refused
    cases refused
  | overflow =>
    rw [read] at refused
    cases refused
  | invalid issue more =>
    rw [read] at refused tells
    cases refused
    have earlier := tells.earlier (parts_sorted raw)
    obtain ⟨before,part,after,same,-,fails⟩ := tells
    exact ⟨issue,{
      place := issue.place_under named
      told := rfl
      leads := fails.leads
      fails := ⟨part,by simp [same],fails⟩
      earlier
      missing := by rw [issue.summary_missing,fails.missing,fails.leads.lacks]}⟩

-- Two alternatives, of which the second has a leaf without a value; what is wrong with the last child is not told.
def halved : Json := .obj [("operator",.str "and"),("conditions",.arr [
  .obj [("field",.str "price"),("operator",.str "<"),("value",.str "3000")],
  .obj [("operator",.str " Or "),("conditions",.arr [
    .obj [("field",.str "rsi"),("operator",.str "between"),("value",.arr [.int 30,.int 70])],
    .obj [("field",.str "volume"),("operator",.str "gt")],
    .int 4])]])]

theorem halved_blames : ∃ issue, Blames "stopLoss.conditions" halved "stopLoss.conditions.conditions.1.conditions.1.value"
    "required field is missing" issue := by
  have told : (match parse "stopLoss.conditions" halved with | .ok _ => none | .error fault => some fault) =
      some (.invalid "stopLoss.conditions.conditions.1.conditions.1.value" "required field is missing") := by decide +kernel
  have refused : parse "stopLoss.conditions" halved =
      .error (.invalid "stopLoss.conditions.conditions.1.conditions.1.value" "required field is missing") := by
    cases read : parse "stopLoss.conditions" halved with
    | ok g => simp [read] at told
    | error fault => simpa [read] using told
  exact parse_blames (by decide) refused

end Group
end OrderDesk
