import OrderDesk.Proofs.Condition.Reread

-- One form for each condition tree. However a tree is made, from a text with other spellings, by hand or from
-- trees that were made before, what is written of it is read as the tree itself, so that a text is put into its
-- form once.
namespace OrderDesk
open Checked

namespace Node

-- Trees that a caller can have: read as a whole, made of one comparison, or joined of such trees.
inductive Built : Node → Prop where
  | parsed {root : String} {v : Json} {g : Group} (read : Group.parse root v = .ok g) : Built g.node
  | condition {field operator value : Json} {c : Condition}
      (made : Condition.ofJson (.obj [("field",field),("operator",operator),("value",value)]) = ok c) : Built (.leaf c)
  | all {children : List Node} (held : ∀ child ∈ children, Built child) : Built (Group.allOf children).node
  | any {children : List Node} (held : ∀ child ∈ children, Built child) : Built (Group.anyOf children).node

end Node

namespace Group

theorem ofInput_admitted {v : Json} {g : Group} (read : ofInput v = ok g) : g.Admitted := by
  unfold ofInput at read
  split at read
  · split at read
    · obtain ⟨condition,made,rfl⟩ := map_eq_ok.mp read
      intro child member
      rw [List.mem_singleton.mp member]
      exact .leaf (Condition.ofFields_admitted made)
    · exact ofJson_admitted read
  · exact ofJson_admitted read

theorem node_admitted {g : Group} : g.node.Admitted ↔ g.Admitted := by
  constructor
  · rintro (_ | ⟨_,held⟩)
    exact held
  · intro held
    exact .group g.junction held

theorem parse_admitted {root : String} {v : Json} {g : Group} (read : parse root v = .ok g) : g.Admitted :=
  ofInput_admitted (orFault_eq_ok.mp read)

theorem parse_written {g : Group} (admitted : g.Admitted) (root : String) : parse root g.toJson = .ok g := by
  rw [parse,ofInput_written admitted,orFault]

-- A leaf alone has a field and no children.
theorem ofInput_leaf {c : Condition} (admitted : c.Admitted) : ofInput c.toJson = ok (ofNode (.leaf c)) := by
  have written : c.toJson = .obj c.fields := rfl
  have alone : (Fields.has "field" c.fields && !Fields.has "conditions" c.fields) = true := rfl
  simp only [written,ofInput,alone,if_true,Condition.ofFields_written admitted,map_ok]

end Group

namespace Node

theorem leaf_admitted {c : Condition} : (leaf c).Admitted ↔ c.Admitted := by
  constructor
  · rintro (held | _)
    exact held
  · exact .leaf

-- What can be had is what the checks let through: they are made once, where a leaf comes in.
theorem built_iff {n : Node} : n.Built ↔ n.Admitted := by
  constructor
  · intro built
    induction built with
    | parsed read => exact Group.node_admitted.mpr (Group.parse_admitted read)
    | condition made => exact .leaf (Condition.ofFields_admitted made)
    | all held ih => exact .group .all ih
    | any held ih => exact .group .any ih
  · intro admitted
    induction admitted with
    | leaf held => exact .condition (Condition.ofFields_written held)
    | group junction held ih =>
      cases junction with
      | all => exact .all ih
      | any => exact .any ih

end Node

namespace Group

-- What is written of a group is read as the group, under whatever name it comes in, and no other group is written so.
structure Normal (g : Group) : Prop where
  reread : ∀ root, parse root g.toJson = .ok g
  bare : ∀ c, g = ofNode (.leaf c) → ∀ root, parse root c.toJson = .ok g
  only : ∀ other : Group, other.node.Built → other.toJson = g.toJson → other = g

theorem admitted_normal {g : Group} (admitted : g.Admitted) : g.Normal := by
  refine ⟨parse_written admitted,?_,?_⟩
  · rintro c rfl root
    have held : c.Admitted := Node.leaf_admitted.mp (admitted (.leaf c) (by simp [ofNode]))
    rw [parse,ofInput_leaf held,orFault]
  · intro other built same
    have others := parse_written (node_admitted.mp (Node.built_iff.mp built)) ""
    rw [same,parse_written admitted ""] at others
    cases others
    rfl

theorem parse_normal : (∀ g : Group, g.node.Built → g.Normal) ∧
    ∀ root v (g : Group), parse root v = .ok g → g.Normal ∧ ∀ other, parse other g.toJson = .ok g := by
  constructor
  · intro g built
    exact admitted_normal (node_admitted.mp (Node.built_iff.mp built))
  · intro root v g read
    have normal := admitted_normal (parse_admitted read)
    exact ⟨normal,normal.reread⟩

-- Signs, capitals, blanks and numbers as texts; a text under equality stays a text.
def loose : Json := .obj [("operator",.str " or "),("conditions",.arr [
  .obj [("field",.str "price"),("operator",.str " <= "),("value",.str " 3e3 ")],
  .obj [("field",.str "tag"),("operator",.str "NEQ"),("value",.str "1e3")],
  .obj [("operator",.str "and"),("conditions",.arr [
    .obj [("field",.str "rsi"),("operator",.str "Between"),("value",.arr [.str "20",.int 30])]])]])]

def single : Json := .obj [("field",.str "ticker"),("operator",.str "=="),("value",.str "007")]

def numbered : Condition := ⟨"ticker",.equal (.text "007")⟩

theorem loose_normal : ∃ g, parse "conditions" loose = .ok g ∧ parse "conditions" g.toJson = .ok g ∧ g.junction = .any ∧
    g.leaves = [⟨"price",.atMost 3000⟩,⟨"tag",.different (.text "1e3")⟩,⟨"rsi",.within 20 30⟩] ∧
    Condition.ofJson single = ok numbered ∧ (allOf [.leaf numbered,g.node]).Normal := by
  have shape : (parse "conditions" loose).toOption.map junction = some .any := by decide +kernel
  have listed : (parse "conditions" loose).toOption.map leaves =
      some [⟨"price",.atMost 3000⟩,⟨"tag",.different (.text "1e3")⟩,⟨"rsi",.within 20 30⟩] := by decide +kernel
  obtain ⟨g,found,junction⟩ := Option.map_eq_some_iff.mp shape
  have read : parse "conditions" loose = .ok g := toOption_eq_some.mp found
  rw [found,Option.map_some,Option.some.injEq] at listed
  have taken : ((Condition.ofJson single).orFault "").toOption = some numbered := by decide +kernel
  have made : Condition.ofJson single = ok numbered := orFault_eq_ok.mp (toOption_eq_some.mp taken)
  have joined : (allOf [.leaf numbered,g.node]).node.Built := by
    refine .all fun child member => ?_
    rcases List.mem_cons.mp member with rfl | member
    · exact .condition made
    · rw [List.mem_singleton.mp member]
      exact .parsed read
  exact ⟨g,read,(parse_normal.2 _ _ g read).2 _,junction,listed,made,parse_normal.1 _ joined⟩

end Group
end OrderDesk
