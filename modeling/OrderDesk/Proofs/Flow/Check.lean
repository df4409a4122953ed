import OrderDesk.Proofs.Condition.Compare
import OrderDesk.Proofs.Condition.Report
import OrderDesk.Proofs.Flow.Template

-- What the checks of a flow ask: the conditions that a node carries are read back from it, and what is derived
-- for them takes the place of what the snapshot had there.
namespace OrderDesk

namespace Fields

theorem get_set (key : String) (v : Json) (fields : Fields) : get? key (set key v fields) = some v := by
  induction fields with
  | nil => simp [set,get?]
  | cons field rest ih =>
    obtain ⟨name,old⟩ := field
    unfold set
    split
    · rename_i same
      simp [get?,same]
    · rename_i differs
      rw [get?,List.find?_cons_of_neg (by simpa using differs)]
      exact ih

end Fields

namespace Snapshot

-- What is derived for a part takes the place of what the snapshot had there.
theorem resolve_derived {path part name : String} {fields : Fields} {v : Json} (parts : Text.split '.' path = [part,name])
    (derived : fields.get? name = some v) (snapshot : Snapshot) : resolve (Fields.set part (.obj fields) snapshot) path = v := by
  rw [resolve,parts]
  simp [walk,Fields.get_set,derived]

end Snapshot

namespace Template

theorem withExtra_evaluate (own : Condition) (extra : Option Group) (snapshot : Snapshot) :
    (withExtra own extra).evaluate snapshot =
      (own.met snapshot).bind fun met => if met then extra.elim (.ok true) fun g => g.evaluate snapshot else .ok false := by
  have first : (withExtra own extra).evaluate snapshot =
      Node.evaluateAll snapshot (.leaf own :: (extra.map Group.node).toList) := rfl
  rw [first,Node.evaluateAll,Node.evaluate]
  cases own.met snapshot with
  | error fault => rfl
  | ok met =>
    cases met with
    | false => rfl
    | true =>
      cases extra with
      | none => rfl
      | some g => exact Node.evaluateAll_single snapshot g.node

theorem withExtra_false {own : Condition} {extra : Option Group} {snapshot : Snapshot} :
    (withExtra own extra).evaluate snapshot = .ok false ↔
      own.met snapshot = .ok false ∨ own.met snapshot = .ok true ∧ ∃ g, extra = some g ∧ g.evaluate snapshot = .ok false := by
  rw [withExtra_evaluate]
  cases own.met snapshot with
  | error fault => simp [Except.bind]
  | ok met =>
    cases met with
    | false => simp [Except.bind]
    | true => cases extra <;> simp [Except.bind]

theorem withExtra_true {own : Condition} {extra : Option Group} {snapshot : Snapshot} :
    (withExtra own extra).evaluate snapshot = .ok true ↔
      own.met snapshot = .ok true ∧ ∀ g, extra = some g → g.evaluate snapshot = .ok true := by
  rw [withExtra_evaluate]
  cases own.met snapshot with
  | error fault => simp [Except.bind]
  | ok met =>
    cases met with
    | false => simp [Except.bind]
    | true => cases extra <;> simp [Except.bind]

theorem withExtra_admitted {own : Condition} {extra : Option Group} (sound : own.Admitted)
    (admitted : ∀ g, extra = some g → g.Admitted) : (withExtra own extra).Admitted := by
  intro child member
  rcases List.mem_cons.mp member with rfl | given
  · exact .leaf sound
  · cases extra with
    | none => cases given
    | some g =>
      have same : child = g.node := by simpa using given
      rw [same]
      exact .group g.junction (admitted g rfl)

end Template

namespace Flow

-- The conditions that a node of a flow carries.
def Asks (f : Flow) (id : String) (g : Group) : Prop :=
  ∃ node conditions, f.node? id = some node ∧ node.data.get? "conditions" = some conditions ∧
    Group.parse "conditions" conditions = .ok g

section
variable {d : FlowDefaults} {owner : Json} {kind : Kind} {now : Timestamp} {plan : Draft}

theorem ofDraft_node (key : String) : (ofDraft d owner kind now plan).node? (Draft.nodeId owner key) =
    (plan.nodes.find? fun node => node.key == key).map (DraftNode.finish owner) := by
  simp [node?,ofDraft,List.find?_map,Function.comp_def,DraftNode.finish,Draft.nodeId_beq]

theorem ofDraft_asks {key : String} {node : DraftNode} {g : Group} (listed : (plan.nodes.find? fun node => node.key == key) = some node)
    (carries : node.data.get? "conditions" = some g.toJson) (admitted : g.Admitted) :
    (ofDraft d owner kind now plan).Asks (Draft.nodeId owner key) g := by
  refine ⟨node.finish owner,g.toJson,?_,carries,?_⟩
  · rw [ofDraft_node,listed]
    rfl
  · rw [Group.parse,Group.ofInput_written admitted]
    rfl

end

end Flow
end OrderDesk
