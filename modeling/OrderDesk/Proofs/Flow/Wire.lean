import OrderDesk.Flow.Wire
import OrderDesk.Proofs.Flow.Rules
import OrderDesk.Proofs.Flow.Template

-- Flows sent on the wire. Whoever reads what was written of a flow has the same graph, and the same flow if and
-- only if all its numbers are finite.
namespace OrderDesk
open Checked Validation

namespace Json

-- No number in the value, at any depth, is infinite or NaN.
inductive Finite : Json → Prop where
  | null : Finite .null
  | bool (b : Bool) : Finite (.bool b)
  | int (n : Int) : Finite (.int n)
  | float {x : Binary64} (held : x.isFinite = true) : Finite (.float x)
  | str (s : String) : Finite (.str s)
  | arr {items : List Json} (held : ∀ v ∈ items, Finite v) : Finite (.arr items)
  | obj {fields : List (String × Json)} (held : ∀ field ∈ fields, Finite field.2) : Finite (.obj fields)

theorem finite_float {x : Binary64} : (float x).Finite ↔ x.isFinite = true := by
  constructor
  · intro finite
    cases finite
    assumption
  · exact .float

theorem finite_arr {items : List Json} : (arr items).Finite ↔ ∀ v ∈ items, v.Finite := by
  constructor
  · intro finite
    cases finite
    assumption
  · exact .arr

theorem finite_obj {fields : List (String × Json)} : (obj fields).Finite ↔ ∀ field ∈ fields, field.2.Finite := by
  constructor
  · intro finite
    cases finite
    assumption
  · exact .obj

mutual

def decideFinite : (v : Json) → Decidable v.Finite
  | .null => isTrue .null
  | .bool b => isTrue (.bool b)
  | .int n => isTrue (.int n)
  | .str s => isTrue (.str s)
  | .float _ => decidable_of_iff _ finite_float.symm
  | .arr items => @decidable_of_iff _ _ finite_arr.symm (decideItems items)
  | .obj fields => @decidable_of_iff _ _ finite_obj.symm (decideFields fields)

def decideItems : (items : List Json) → Decidable (∀ v ∈ items, v.Finite)
  | [] => isTrue (by simp)
  | v :: rest => @decidable_of_iff _ _ List.forall_mem_cons.symm (@instDecidableAnd _ _ (decideFinite v) (decideItems rest))

def decideFields : (fields : List (String × Json)) → Decidable (∀ field ∈ fields, field.2.Finite)
  | [] => isTrue (by simp)
  | (_,v) :: rest => @decidable_of_iff _ _ List.forall_mem_cons.symm (@instDecidableAnd _ _ (decideFinite v) (decideFields rest))

end

instance (v : Json) : Decidable v.Finite := decideFinite v

mutual

theorem finiteOnly_same : (v : Json) → (v.finiteOnly = v ↔ v.Finite)
  | .null => by simp [finiteOnly,Finite.null]
  | .bool b => by simp [finiteOnly,Finite.bool]
  | .int n => by simp [finiteOnly,Finite.int]
  | .str s => by simp [finiteOnly,Finite.str]
  | .float x => by cases held : x.isFinite <;> simp [finiteOnly,finite_float,held]
  | .arr items => by simp [finiteOnly,finite_arr,finiteItems_same items]
  | .obj fields => by simp [finiteOnly,finite_obj,finiteFields_same fields]

theorem finiteItems_same : (items : List Json) → (finiteItems items = items ↔ ∀ v ∈ items, v.Finite)
  | [] => by simp [finiteItems]
  | v :: rest => by simp [finiteItems,finiteOnly_same v,finiteItems_same rest]

theorem finiteFields_same : (fields : List (String × Json)) → (finiteFields fields = fields ↔ ∀ field ∈ fields, field.2.Finite)
  | [] => by simp [finiteFields]
  | (key,v) :: rest => by simp [finiteFields,finiteOnly_same v,finiteFields_same rest]

end

end Json

-- A list is read item by item.
theorem itemsFrom_told {check : Check β} {write : α → Json} (told : α → β) (reads : ∀ a, check (write a) = ok (told a))
    (items : List α) (place : Nat) : itemsFrom check place (items.map write) = ok (items.map told) := by
  induction items generalizing place with
  | nil => rfl
  | cons a rest ih => simp [itemsFrom,reads a,ih]

theorem Role.choice_written (role : Role) : choice? (all.map fun role => (role.name,role)) (.str role.name) = some role := by
  cases role <;> rfl

theorem Label.choice_written (label : Label) : choice? (all.map fun label => (label.name,label)) (.str label.name) = some label := by
  cases label <;> rfl

-- A flow as it is read from what was written of it.

def FlowNode.told (n : FlowNode) : FlowNode := {n with data := Json.finiteFields n.data}

def Flow.told (f : Flow) : Flow := {f with nodes := f.nodes.map FlowNode.told,metadata := Json.finiteFields f.metadata}

theorem FlowNode.ofFields_written (n : FlowNode) : record "FlowNode" ofFields n.toJson = ok n.told := by
  have role := n.role.choice_written
  simp [record,toJson,ofFields,needed,given,Key.ofName,Key.find?,get_cons,text,member,mapping,role,Json.finiteOnly,told]

theorem FlowEdge.ofFields_written (e : FlowEdge) : record "FlowEdge" ofFields e.toJson = ok e := by
  have label := e.label.choice_written
  simp [record,toJson,ofFields,needed,given,Key.ofName,Key.find?,get_cons,text,oneOf,label]

namespace Flow

theorem ofJson_written (f : Flow) : ofJson f.toJson = ok f.told := by
  have nodes := itemsFrom_told FlowNode.told FlowNode.ofFields_written f.nodes 0
  have edges := itemsFrom_told (fun e => e) FlowEdge.ofFields_written f.edges 0
  rw [List.map_id'] at edges
  simp [record,ofJson,toJson,ofFields,needed,given,Key.ofName,Key.find?,get_cons,text,list,nodes,edges,mapping,Json.finiteOnly,told]

-- No number is lost on the way.
structure Finite (f : Flow) : Prop where
  data : ∀ n ∈ f.nodes, ∀ field ∈ n.data, field.2.Finite
  metadata : ∀ field ∈ f.metadata, field.2.Finite

theorem finite_iff {f : Flow} :
    (∀ n ∈ f.nodes, ∀ field ∈ n.data, field.2.Finite) ∧ (∀ field ∈ f.metadata, field.2.Finite) ↔ f.Finite := by
  constructor
  · intro held
    exact ⟨held.1,held.2⟩
  · intro finite
    exact ⟨finite.data,finite.metadata⟩

instance (f : Flow) : Decidable f.Finite := decidable_of_iff _ finite_iff

theorem told_same {f : Flow} : f.told = f ↔ f.Finite := by
  have node (n : FlowNode) : n.told = n ↔ ∀ field ∈ n.data, field.2.Finite := by
    rw [← Json.finiteFields_same]
    cases n
    simp [FlowNode.told]
  have nodes : f.nodes.map FlowNode.told = f.nodes ↔ ∀ n ∈ f.nodes, ∀ field ∈ n.data, field.2.Finite := by
    simp only [← node]
    induction f.nodes with
    | nil => simp
    | cons n rest ih => simp [ih]
  constructor
  · intro same
    exact ⟨nodes.mp (congrArg Flow.nodes same),Json.finiteFields_same f.metadata |>.mp (congrArg Flow.metadata same)⟩
  · intro finite
    rw [told,nodes.mpr finite.data,(Json.finiteFields_same f.metadata).mpr finite.metadata]

-- What the course of a flow depends on.
structure Parallel (f g : Flow) : Prop where
  entryValue : g.entryValue = f.entryValue
  structurePart : g.structurePart = f.structurePart
  edges : g.edges = f.edges

namespace Parallel
variable {f g : Flow}

theorem ids (parallel : f.Parallel g) : g.ids = f.ids := by
  have own (h : Flow) : h.ids = h.structurePart.1.map Prod.fst := by
    rw [Flow.ids,Flow.structurePart,List.map_map]
    rfl
  rw [own,own,parallel.structurePart]

theorem entry (parallel : f.Parallel g) : g.entry = f.entry := congrArg Json.display parallel.entryValue

theorem outgoing (parallel : f.Parallel g) (id : String) : g.outgoing id = f.outgoing id := by
  rw [Flow.outgoing,Flow.outgoing,parallel.edges]

theorem next (parallel : f.Parallel g) (id : String) (outcome : Option Bool) : g.next? id outcome = f.next? id outcome := by
  rw [next?,next?,parallel.outgoing]

-- Every node has one of its id and role at the other.
theorem node (parallel : f.Parallel g) {n : FlowNode} (member : n ∈ f.nodes) : ∃ m ∈ g.nodes, m.id = n.id ∧ m.role = n.role := by
  have same : (g.nodes.map fun node => (node.id,node.role)) = f.nodes.map fun node => (node.id,node.role) :=
    congrArg Prod.fst parallel.structurePart
  have listed : (n.id,n.role) ∈ g.nodes.map fun node => (node.id,node.role) := by
    rw [same]
    exact List.mem_map.mpr ⟨n,member,rfl⟩
  obtain ⟨m,other,alike⟩ := List.mem_map.mp listed
  exact ⟨m,other,congrArg Prod.fst alike,congrArg Prod.snd alike⟩

theorem symm (parallel : f.Parallel g) : g.Parallel f :=
  ⟨parallel.entryValue.symm,parallel.structurePart.symm,parallel.edges.symm⟩

theorem formed (parallel : f.Parallel g) (formed : f.WellFormed) : g.WellFormed := by
  have joins : g.Joins = f.Joins := by
    funext a b
    rw [Joins,Joins,parallel.edges]
  refine ⟨?_,?_,?_,?_,?_,?_,?_⟩
  · rw [parallel.ids]
    exact formed.distinct
  · rw [parallel.entryValue]
    exact formed.shown
  · rw [parallel.entry,parallel.ids]
    exact formed.starts
  · rw [parallel.edges,parallel.ids]
    exact formed.joined
  · intro n member
    obtain ⟨own,other,id,role⟩ := parallel.symm.node member
    rw [parallel.outgoing,← id,← role]
    exact formed.departs own other
  · rw [joins,parallel.entry,parallel.ids]
    exact formed.reached
  · obtain ⟨n,member,ends⟩ := formed.ends
    obtain ⟨own,other,-,role⟩ := parallel.node member
    exact ⟨own,other,role.trans ends⟩

end Parallel

-- A flow that was made has the id of its first node in its metadata, as a text.
theorem told_parallel (d : FlowDefaults) (owner : Json) (kind : Kind) (now : Timestamp) (plan : Draft) :
    (ofDraft d owner kind now plan).Parallel (ofDraft d owner kind now plan).told := by
  refine ⟨?_,?_,rfl⟩
  · simp [entryValue,told,ofDraft,metadataOf,Json.finiteFields,Json.finiteOnly,get_cons]
  · simp [structurePart,told,FlowNode.told]

-- A flow on the other side of the wire.
structure Arrives (f g : Flow) : Prop where
  -- It obeys the rules and leads the same way from the same start,
  check : g.check = .ok ()
  entry : g.entry = f.entry
  structurePart : g.structurePart = f.structurePart
  next : ∀ id outcome, g.next? id outcome = f.next? id outcome
  -- and is the flow that was sent, with the data of every node, if and only if that has finite numbers only.
  same : g = f ↔ f.Finite

theorem generate_arrives {d : FlowDefaults} {owner : Json} {kind : Kind} {p : Params} {now : Timestamp} {f : Flow}
    (made : generate d owner kind p now = .ok f) : ∃ g, ofJson f.toJson = ok g ∧ f.Arrives g := by
  obtain ⟨q,plan,-,drafted,rfl⟩ := generate_drafted made
  have parallel := told_parallel d owner kind now plan
  have formed := check_formed.mp (ofDraft_check d owner kind now (Template.draft_sound drafted))
  refine ⟨_,ofJson_written _,?_,parallel.entry,parallel.structurePart,parallel.next,told_same⟩
  exact check_formed.mpr (parallel.formed formed)

-- Two branches, one under conditions inside conditions.
def branches : Json := .obj [("token",.str "ETH"),("notify_channels",.arr [.str "ops"]),
  ("stopLoss",.obj [("conditions",.obj [("operator",.str "AND"),("conditions",.arr [
    .obj [("field",.str "price"),("operator",.str "<="),("value",.str "1800")]])]),("sellPercent",.int 40)]),
  ("takeProfit",.obj [("conditions",.obj [("operator",.str "or"),("conditions",.arr [
    .obj [("field",.str "price"),("operator",.str "between"),("value",.arr [.int 4000,.float 5000])],
    .obj [("operator",.str "AND"),("conditions",.arr [.obj [("field",.str "mood"),("operator",.str "=="),("value",.str "sold")]])]])])])]

theorem branched_arrives : ∃ p f g, Params.parse (.str "dual-protection") branches = .ok p ∧
    generate .standard (.str "order_1") .dualProtection p .origin = .ok f ∧ ofJson f.toJson = ok g ∧ g = f ∧ f.Arrives g := by
  have finite : (Params.parse (.str "dual-protection") branches).toOption.any (fun p =>
      (Template.draft .standard p).toOption.any fun plan =>
        decide (p.kind = .dualProtection ∧ (ofDraft .standard (.str "order_1") .dualProtection .origin plan).Finite)) = true := by
    decide +kernel
  obtain ⟨p,parsed,drafts⟩ := Option.any_eq_true _ _ |>.mp finite
  obtain ⟨plan,drafted,held⟩ := Option.any_eq_true _ _ |>.mp drafts
  obtain ⟨own,numbers⟩ := of_decide_eq_true held
  have read := toOption_eq_some.mp parsed
  have checked := Params.recheck_settled (Params.parse_settled read)
  rw [own] at checked
  have made : generate .standard (.str "order_1") .dualProtection p .origin =
      .ok (ofDraft .standard (.str "order_1") .dualProtection .origin plan) := generate_made checked (toOption_eq_some.mp drafted)
  obtain ⟨g,taken,arrives⟩ := generate_arrives made
  exact ⟨p,_,g,read,made,taken,arrives.same.mpr numbers,arrives⟩

end Flow
end OrderDesk
