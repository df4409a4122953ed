import OrderDesk.Flow.Template
import OrderDesk.Proofs.Flow.Search

-- Flows of drafts: ids are keys with an owner in front, so what the rules ask of ids is asked of keys, and a
-- draft whose keys obey the rules makes a flow that passes them.
namespace OrderDesk

namespace Role

-- The labels that leave a node of this role, as drafts write them.
def labels : Role → List Label
  | .terminal => []
  | .checkCondition => [.onTrue,.onFalse]
  | _ => [.always]

theorem labels_expected (role : Role) : (role.labels.map Label.name).mergeSort (fun a b => a ≤ b) = Flow.expectedLabels role := by
  cases role <;> simp [labels,Label.name,Flow.expectedLabels,List.mergeSort,List.MergeSort.Internal.splitInTwo]

end Role

namespace Draft

theorem nodeId_injective {owner : Json} {a b : String} (same : nodeId owner a = nodeId owner b) : a = b := by
  have characters := congrArg String.toList same
  simp only [nodeId,String.toList_append,List.append_cancel_left_eq] at characters
  exact String.toList_inj.mp characters

theorem nodeId_beq (owner : Json) (a b : String) : (nodeId owner a == nodeId owner b) = (a == b) := by
  by_cases same : a = b
  · rw [same,beq_self_eq_true,beq_self_eq_true]
  · rw [beq_eq_false_iff_ne.mpr same,beq_eq_false_iff_ne.mpr fun equal => same (nodeId_injective equal)]

-- The rules of flows, for the keys and links of a draft.

def keys (plan : Draft) : List String := plan.nodes.map DraftNode.key

def leaving (links : List Link) (key : String) : List Link := links.filter fun link => link.source == key

-- What a search along the links finds.
def found (links : List Link) (first : String) : List String :=
  ((Search.start first).rounds (fun key => (leaving links key).map Link.target) (links.length + 1)).found

structure Sound (plan : Draft) : Prop where
  distinct : plan.keys.Nodup
  joined : ∀ link ∈ plan.links, link.source ∈ plan.keys ∧ link.target ∈ plan.keys
  labelled : ∀ node ∈ plan.nodes, (leaving plan.links node.key).map Link.label = node.role.labels
  reached : ∀ key ∈ plan.keys, key ∈ found plan.links plan.first.key
  ends : ∃ node ∈ plan.nodes, node.role = .terminal

-- The same rules, as they can be computed without the data of the nodes.
def accepts (nodes : List (String × Role)) (links : List Link) (first : String) : Bool :=
  let keys := nodes.map Prod.fst
  decide keys.Nodup && links.all (fun link => keys.contains link.source && keys.contains link.target) &&
    nodes.all (fun node => (leaving links node.1).map Link.label == node.2.labels) &&
    keys.all (found links first).contains && nodes.any fun node => node.2 == .terminal

theorem accepts_sound {plan : Draft}
    (accepted : accepts (plan.nodes.map fun node => (node.key,node.role)) plan.links plan.first.key = true) : plan.Sound := by
  have keys : (plan.nodes.map fun node => (node.key,node.role)).map Prod.fst = plan.keys := by
    simp [Draft.keys,Function.comp_def]
  simp only [accepts,keys,Bool.and_eq_true,decide_eq_true_eq,List.all_eq_true,List.any_eq_true,List.contains_iff_mem,
    List.forall_mem_map,beq_iff_eq] at accepted
  obtain ⟨⟨⟨⟨distinct,joined⟩,labelled⟩,reached⟩,node,member,terminal⟩ := accepted
  obtain ⟨drafted,listed,rfl⟩ := List.mem_map.mp member
  exact ⟨distinct,joined,labelled,reached,drafted,listed,terminal⟩

end Draft

namespace Flow
open Draft

-- Where ids are unique, the node of an id is the one that has it.
theorem node_own {f : Flow} {node : FlowNode} (distinct : f.ids.Nodup) (member : node ∈ f.nodes) :
    f.node? node.id = some node := by
  unfold node?
  cases found : f.nodes.find? (fun other => other.id == node.id) with
  | none =>
    have differs := List.find?_eq_none.mp found node member
    simp at differs
  | some other =>
    have same := List.find?_some found
    rw [beq_iff_eq] at same
    rw [List.inj_on_of_nodup_map distinct (List.mem_of_find?_eq_some found) member same]

variable {d : FlowDefaults} {owner : Json} {kind : Kind} {now : Timestamp} {plan : Draft}

theorem ofDraft_ids : (ofDraft d owner kind now plan).ids = plan.keys.map (nodeId owner) := by
  simp [ids,ofDraft,keys,DraftNode.finish]

theorem ofDraft_entryValue : (ofDraft d owner kind now plan).entryValue = .str (nodeId owner plan.first.key) := by
  simp [entryValue,ofDraft,metadataOf,Fields.get?]

theorem ofDraft_entry : (ofDraft d owner kind now plan).entry = nodeId owner plan.first.key := by
  rw [entry,ofDraft_entryValue]
  rfl

theorem ofDraft_outgoing (key : String) :
    (ofDraft d owner kind now plan).outgoing (nodeId owner key) = (leaving plan.links key).map (Link.finish owner) := by
  simp [outgoing,ofDraft,leaving,List.filter_map,Function.comp_def,Link.finish,nodeId_beq]

theorem contains_nodeId (keys : List String) (key : String) : (keys.map (nodeId owner)).contains (nodeId owner key) = keys.contains key := by
  induction keys with
  | nil => rfl
  | cons first rest ih => rw [List.map_cons,List.contains_cons,List.contains_cons,nodeId_beq,ih]

theorem ofDraft_labels (key : String) : (ofDraft d owner kind now plan).labelsOf (nodeId owner key) =
    (((leaving plan.links key).map Link.label).map Label.name).mergeSort fun a b => a ≤ b := by
  simp [labelsOf,ofDraft_outgoing,Link.finish,Function.comp_def]

theorem ofDraft_reachable :
    (ofDraft d owner kind now plan).reachable = (found plan.links plan.first.key).map (nodeId owner) := by
  have renamed (key : String) : (ofDraft d owner kind now plan).successors (nodeId owner key) =
      ((leaving plan.links key).map Link.target).map (nodeId owner) := by
    simp [successors,ofDraft_outgoing,Link.finish]
  have rounds : (ofDraft d owner kind now plan).edges.length = plan.links.length := by simp [ofDraft]
  rw [reachable,rounds,ofDraft_entry,found]
  exact congrArg Search.found (Search.rounds_rename (fun _ _ => nodeId_injective) renamed _ (Search.start plan.first.key))

theorem ofDraft_joined (sound : plan.Sound) : (ofDraft d owner kind now plan).edges.find? (ofDraft d owner kind now plan).dangling = none := by
  rw [List.find?_eq_none]
  intro edge member
  obtain ⟨link,listed,rfl⟩ := List.mem_map.mp member
  obtain ⟨source,target⟩ := sound.joined link listed
  simp only [dangling,ofDraft_ids,Link.finish,contains_nodeId]
  simp [source,target]

theorem ofDraft_labelled (sound : plan.Sound) :
    (ofDraft d owner kind now plan).nodes.find? (ofDraft d owner kind now plan).wrongNode = none := by
  rw [List.find?_eq_none]
  intro node member
  obtain ⟨drafted,listed,rfl⟩ := List.mem_map.mp member
  have labels := sound.labelled drafted listed
  simp [wrongNode,DraftNode.finish,ofDraft_labels,labels,Role.labels_expected]

theorem ofDraft_reached (sound : plan.Sound) : (ofDraft d owner kind now plan).unreached = [] := by
  rw [unreached,ofDraft_ids,ofDraft_reachable,List.filter_eq_nil_iff]
  intro id member
  obtain ⟨key,listed,rfl⟩ := List.mem_map.mp member
  rw [contains_nodeId]
  simp [sound.reached key listed]

-- A sound draft makes a flow that obeys the rules.
theorem ofDraft_check (d : FlowDefaults) (owner : Json) (kind : Kind) (now : Timestamp) (sound : plan.Sound) :
    (ofDraft d owner kind now plan).check = .ok () := by
  have distinct : (ofDraft d owner kind now plan).ids.Nodup := by
    rw [ofDraft_ids]
    exact List.Pairwise.map _ (fun _ _ differ equal => differ (nodeId_injective equal)) sound.distinct
  have starts : (ofDraft d owner kind now plan).entry ∈ (ofDraft d owner kind now plan).ids := by
    rw [ofDraft_ids,ofDraft_entry]
    exact List.mem_map_of_mem (List.mem_map_of_mem List.mem_cons_self)
  have ends : (ofDraft d owner kind now plan).reachable.any (ofDraft d owner kind now plan).ending = true := by
    obtain ⟨node,member,role⟩ := sound.ends
    have listed : node.key ∈ plan.keys := List.mem_map_of_mem member
    have alone : (ofDraft d owner kind now plan).node? (nodeId owner node.key) = some (node.finish owner) :=
      node_own distinct (List.mem_map_of_mem member)
    refine List.any_eq_true.mpr ⟨nodeId owner node.key,?_,?_⟩
    · rw [ofDraft_reachable]
      exact List.mem_map_of_mem (sound.reached _ listed)
    · rw [ending,alone]
      simp [DraftNode.finish,role]
  simp [check,ofDraft_entryValue,defect?,distinct,starts,ofDraft_joined sound,ofDraft_labelled sound,ofDraft_reached sound,ends]

end Flow
end OrderDesk
