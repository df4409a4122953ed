import OrderDesk.Proofs.Flow.Draft

-- The check of a flow accepts the flows that obey the rules and no others, and a flow that obeys them has a
-- next node wherever it does not end.
namespace OrderDesk

-- The edges that leave a node, as its role asks for them.
def Role.Departs : Role → List FlowEdge → Prop
  | .terminal,edges => edges = []
  | .checkCondition,edges => ∃ yes no, edges.Perm [yes,no] ∧ yes.label = .onTrue ∧ no.label = .onFalse
  | _,edges => ∃ edge, edges = [edge] ∧ edge.label = .always

namespace Flow
variable {f : Flow} {node : FlowNode} {role : Role} {edges : List FlowEdge} {id : String}

def Joins (f : Flow) (a b : String) : Prop := ∃ edge ∈ f.edges, edge.source = a ∧ edge.target = b

structure WellFormed (f : Flow) : Prop where
  distinct : f.ids.Nodup
  -- The entry has a text, and it is the id of a node.
  shown : f.entryValue.printable = true
  starts : f.entry ∈ f.ids
  joined : ∀ edge ∈ f.edges, edge.source ∈ f.ids ∧ edge.target ∈ f.ids
  departs : ∀ node ∈ f.nodes, node.role.Departs (f.outgoing node.id)
  reached : ∀ id ∈ f.ids, Relation.ReflTransGen f.Joins f.entry id
  ends : ∃ node ∈ f.nodes, node.role = .terminal

-- The search of the check.

theorem successors_joins {a b : String} : b ∈ f.successors a ↔ f.Joins a b := by
  simp only [successors,outgoing,List.mem_map,List.mem_filter,beq_iff_eq,Joins,and_assoc]

theorem successors_targets (a : String) : ∀ b ∈ f.successors a, b ∈ f.edges.map FlowEdge.target := by
  intro b leads
  obtain ⟨edge,member,-,target⟩ := successors_joins.mp leads
  exact List.mem_map.mpr ⟨edge,member,target⟩

theorem search_ends (f : Flow) : ((Search.start f.entry).rounds f.successors (f.edges.length + 1)).waiting = [] := by
  have ends := Search.rounds_end f.entry (successors_targets (f:=f))
  rwa [List.length_map] at ends

-- More rounds than the search is given change nothing.
theorem search_settled (f : Flow) {n : Nat} (enough : f.edges.length + 1 ≤ n) :
    (Search.start f.entry).rounds f.successors n = ⟨f.reachable,[]⟩ := by
  obtain ⟨more,rfl⟩ := Nat.exists_eq_add_of_le enough
  have ends := search_ends f
  rw [Search.rounds_add,Search.rounds_empty more ends,← ends]
  rfl

theorem mem_reachable : id ∈ f.reachable ↔ Relation.ReflTransGen f.Joins f.entry id := by
  have sound : Search.Sound f.successors f.entry _ := Search.rounds_sound (f.edges.length + 1) Search.start_sound
  have same : (fun a b => b ∈ f.successors a) = f.Joins := by
    funext a b
    exact propext successors_joins
  rw [← same]
  exact sound.found_iff (search_ends f)

-- Where the entry and the ends of the edges are nodes, nothing else is found.
theorem reachable_ids (starts : f.entry ∈ f.ids) (joined : ∀ edge ∈ f.edges, edge.target ∈ f.ids) (found : id ∈ f.reachable) :
    id ∈ f.ids := by
  cases Relation.ReflTransGen.cases_tail (mem_reachable.mp found) with
  | inl same => rwa [same]
  | inr last =>
    obtain ⟨before,-,edge,member,-,target⟩ := last
    rw [← target]
    exact joined edge member

theorem node_known (known : id ∈ f.ids) : ∃ node, f.node? id = some node := by
  obtain ⟨node,member,same⟩ := List.mem_map.mp known
  apply Option.isSome_iff_exists.mp
  rw [node?,List.find?_isSome]
  exact ⟨node,member,beq_iff_eq.mpr same⟩

-- The labels of a role.

theorem expectedLabels_sorted (role : Role) : (expectedLabels role).Pairwise (· ≤ ·) := by
  cases role <;> simp only [expectedLabels] <;> decide

-- Labels are compared in order, so only how often each of them occurs counts.
theorem sorted_expected {labels : List String} :
    labels.mergeSort (fun a b => a ≤ b) = expectedLabels role ↔ labels.Perm (expectedLabels role) := by
  have sorts : (labels.mergeSort fun a b => a ≤ b).Perm labels := List.mergeSort_perm labels _
  constructor
  · intro same
    rw [← same]
    exact sorts.symm
  · intro perm
    have ordered : (labels.mergeSort fun a b => a ≤ b).Pairwise fun a b => decide (a ≤ b) = true := by
      apply List.pairwise_mergeSort
      · intro a b c first second
        exact decide_eq_true (String.le_trans (of_decide_eq_true first) (of_decide_eq_true second))
      · intro a b
        simpa using String.le_total a b
    exact (sorts.trans perm).eq_of_pairwise (fun a b _ _ => String.le_antisymm) (ordered.imp of_decide_eq_true)
      (expectedLabels_sorted role)

theorem departs_labels : (edges.map fun edge => edge.label.name).Perm (expectedLabels role) ↔ role.Departs edges := by
  have single (name : String) : (edges.map fun edge => edge.label.name).Perm [name] ↔ ∃ edge, edges = [edge] ∧ edge.label.name = name := by
    rw [List.perm_singleton,List.map_eq_singleton_iff]
  have always (edge : FlowEdge) : edge.label.name = "always" ↔ edge.label = .always := by
    cases edge.label <;> decide
  cases role with
  | terminal => simp [expectedLabels,Role.Departs]
  | executeTrade | notify | waitTick | updateState =>
    simp only [expectedLabels,Role.Departs,single,always]
  | checkCondition =>
    simp only [expectedLabels,Role.Departs]
    constructor
    · intro perm
      have two := perm.length_eq
      rw [List.length_map] at two
      obtain ⟨a,b,rfl⟩ := List.length_eq_two.mp two
      -- Of the nine pairs of labels two are permutations of the pair that is asked for.
      cases first : a.label <;> cases second : b.label <;> simp only [List.map,first,second,Label.name] at perm <;>
        first
        | exact ⟨a,b,List.Perm.refl _,first,second⟩
        | exact ⟨b,a,List.Perm.swap b a [],second,first⟩
        | exact absurd perm (by decide)
    · intro departs
      obtain ⟨yes,no,perm,onTrue,onFalse⟩ := departs
      refine (perm.map _).trans ?_
      simp only [List.map,onTrue,onFalse,Label.name]
      exact List.Perm.swap _ _ []

theorem wrongNode_iff : f.wrongNode node = false ↔ node.role.Departs (f.outgoing node.id) := by
  rw [wrongNode,bne_eq_false_iff_eq,labelsOf,sorted_expected,departs_labels]

-- The next node.

-- What an accepted flow does at a node.
structure Continues (f : Flow) (node : FlowNode) : Prop where
  stops : ∀ holds : Bool, f.next? node.id (some holds) = none ↔ node.role = .terminal
  stays : ∀ outcome next, f.next? node.id outcome = some next → next ∈ f.ids
  steady : node.role ≠ .checkCondition → ∀ outcome, f.next? node.id outcome = f.next? node.id none

theorem next_stays (joined : ∀ edge ∈ f.edges, edge.source ∈ f.ids ∧ edge.target ∈ f.ids) {outcome : Option Bool} {next : String}
    (found : f.next? id outcome = some next) : next ∈ f.ids := by
  obtain ⟨edge,chosen,target⟩ := Option.map_eq_some_iff.mp found
  obtain ⟨member,-⟩ := List.mem_filter.mp (List.mem_of_find?_eq_some chosen)
  rw [← target]
  exact (joined edge member).right

theorem single_next {edge : FlowEdge} (only : f.outgoing id = [edge]) (always : edge.label = .always) (outcome : Option Bool) :
    f.next? id outcome = some edge.target := by
  simp [next?,only,always]

theorem check_next {yes no : FlowEdge} (both : (f.outgoing id).Perm [yes,no]) (onTrue : yes.label = .onTrue)
    (onFalse : no.label = .onFalse) (holds : Bool) : f.next? id (some holds) = some (if holds then yes.target else no.target) := by
  have member (edge : FlowEdge) : edge ∈ f.outgoing id ↔ edge = yes ∨ edge = no := by
    rw [both.mem_iff,List.mem_cons,List.mem_singleton]
  rw [next?]
  cases found : (f.outgoing id).find? fun edge => edge.label == Label.ofOutcome (some holds) || edge.label == .always with
  | none =>
    have missed := List.find?_eq_none.mp found
    cases holds with
    | true => exact absurd (missed yes ((member yes).mpr (Or.inl rfl))) (by simp [onTrue,Label.ofOutcome])
    | false => exact absurd (missed no ((member no).mpr (Or.inr rfl))) (by simp [onFalse,Label.ofOutcome])
  | some edge =>
    have label := List.find?_some found
    cases (member edge).mp (List.mem_of_find?_eq_some found) with
    | inl same =>
      cases holds with
      | true => rw [same]; rfl
      | false => simp [same,onTrue,Label.ofOutcome] at label
    | inr same =>
      cases holds with
      | true => simp [same,onFalse,Label.ofOutcome] at label
      | false => rw [same]; rfl

theorem single_departs (goesOn : role ≠ .terminal) (plain : role ≠ .checkCondition) (departs : role.Departs edges) :
    ∃ edge, edges = [edge] ∧ edge.label = .always := by
  cases role with
  | terminal => exact absurd rfl goesOn
  | checkCondition => exact absurd rfl plain
  | executeTrade | notify | waitTick | updateState => exact departs

theorem WellFormed.continues (formed : f.WellFormed) (member : node ∈ f.nodes) : f.Continues node := by
  have departs := formed.departs node member
  have stays (outcome : Option Bool) (next : String) (found : f.next? node.id outcome = some next) : next ∈ f.ids :=
    next_stays formed.joined found
  by_cases ends : node.role = .terminal
  · rw [ends] at departs
    have nowhere (outcome : Option Bool) : f.next? node.id outcome = none := by
      rw [next?,show f.outgoing node.id = [] from departs]
      rfl
    exact ⟨fun holds => by simp [nowhere,ends],stays,fun _ outcome => by rw [nowhere,nowhere]⟩
  · by_cases checks : node.role = .checkCondition
    · rw [checks] at departs
      obtain ⟨yes,no,both,onTrue,onFalse⟩ := departs
      refine ⟨?_,stays,fun plain => absurd checks plain⟩
      intro holds
      rw [check_next both onTrue onFalse holds]
      simp [ends]
    · obtain ⟨edge,only,always⟩ := single_departs ends checks departs
      refine ⟨?_,stays,?_⟩
      · intro holds
        rw [single_next only always]
        simp [ends]
      · intro _ outcome
        rw [single_next only always,single_next only always]

-- The check.

theorem ends_reachable (distinct : f.ids.Nodup) (reached : ∀ id ∈ f.ids, id ∈ f.reachable) :
    f.reachable.any f.ending = true ↔ ∃ node ∈ f.nodes, node.role = .terminal := by
  rw [List.any_eq_true]
  constructor
  · intro some
    obtain ⟨id,-,ending⟩ := some
    obtain ⟨node,found,terminal⟩ := (Option.any_eq_true _ _).mp ending
    exact ⟨node,List.mem_of_find?_eq_some found,eq_of_beq terminal⟩
  · intro some
    obtain ⟨node,member,terminal⟩ := some
    refine ⟨node.id,reached node.id (List.mem_map_of_mem member),?_⟩
    rw [Flow.ending,node_own distinct member,Option.any_some,terminal]
    rfl

theorem defect_parts : f.defect? = none ↔ f.ids.Nodup ∧ f.entry ∈ f.ids ∧ f.edges.find? f.dangling = none ∧
    f.nodes.find? f.wrongNode = none ∧ f.unreached.isEmpty = true ∧ f.reachable.any f.ending = true := by
  unfold defect?
  by_cases distinct : f.ids.Nodup
  · by_cases starts : f.entry ∈ f.ids
    · cases dangling : f.edges.find? f.dangling with
      | some edge => simp [distinct,starts]
      | none =>
        cases wrong : f.nodes.find? f.wrongNode with
        | some node => simp [distinct,starts]
        | none =>
          simp only [distinct,starts,decide_true,List.contains_iff_mem.mpr starts,Bool.not_true,Bool.false_eq_true,if_false,true_and]
          cases f.unreached.isEmpty <;> cases f.reachable.any f.ending <;> simp
    · simp [distinct,starts]
  · simp [distinct]

theorem joined_iff : f.edges.find? f.dangling = none ↔ ∀ edge ∈ f.edges, edge.source ∈ f.ids ∧ edge.target ∈ f.ids := by
  simp [List.find?_eq_none,dangling]

theorem departs_iff : f.nodes.find? f.wrongNode = none ↔ ∀ node ∈ f.nodes, node.role.Departs (f.outgoing node.id) := by
  simp only [List.find?_eq_none,Bool.not_eq_true,wrongNode_iff]

theorem unreached_iff : f.unreached.isEmpty = true ↔ ∀ id ∈ f.ids, id ∈ f.reachable := by
  simp [unreached,List.isEmpty_iff]

theorem defect_none : f.entryValue.printable = true ∧ f.defect? = none ↔ f.WellFormed := by
  rw [defect_parts,joined_iff,departs_iff,unreached_iff]
  constructor
  · intro parts
    obtain ⟨shown,distinct,starts,joined,departs,reached,ends⟩ := parts
    exact ⟨distinct,shown,starts,joined,departs,fun id known => mem_reachable.mp (reached id known),
      (ends_reachable distinct reached).mp ends⟩
  · intro formed
    have reached (id : String) (known : id ∈ f.ids) : id ∈ f.reachable := mem_reachable.mpr (formed.reached id known)
    exact ⟨formed.shown,formed.distinct,formed.starts,formed.joined,formed.departs,reached,
      (ends_reachable formed.distinct reached).mpr formed.ends⟩

-- How a check ends. Where two nodes have one id, nobody asks for the text of the entry.
inductive Checks (f : Flow) : Prop where
  | accepts (shown : f.entryValue.printable = true) (sound : f.defect? = none) (accepted : f.check = .ok ())
  | reports (defect : FlowDefect) (found : f.defect? = some defect)
      (refused : f.check = .error (.malformed s!"flow {f.id}: {defect.text}"))
  | raises (distinct : f.ids.Nodup) (unshown : f.entryValue.printable = false) (raised : f.check = .error .unprintable)

theorem check_shown (shown : ¬ (f.ids.Nodup ∧ f.entryValue.printable = false)) : f.check =
    match f.defect? with
    | none => .ok ()
    | some defect => .error (.malformed s!"flow {f.id}: {defect.text}") := by
  unfold check
  exact if_neg (by simpa using shown)

theorem check_cases (f : Flow) : f.Checks := by
  by_cases hidden : f.ids.Nodup ∧ f.entryValue.printable = false
  · exact .raises hidden.1 hidden.2 (by simp [check,hidden])
  · have checks := check_shown hidden
    cases found : f.defect? with
    | some defect =>
      rw [found] at checks
      exact .reports defect found checks
    | none =>
      rw [found] at checks
      have distinct : f.ids.Nodup := (defect_parts.mp found).1
      exact .accepts (Bool.of_not_eq_false fun unshown => hidden ⟨distinct,unshown⟩) found checks

theorem check_formed : f.check = .ok () ↔ f.WellFormed := by
  rw [← defect_none]
  cases check_cases f with
  | accepts shown sound accepted => simp [shown,sound,accepted]
  | reports defect found refused => simp [found,refused]
  | raises distinct unshown raised => simp [unshown,raised]

-- What the check of a flow comes to. Its loop has nothing left to do after one round more than there are edges.
structure Examined (f : Flow) : Prop where
  enters : f.entry = (Fields.get? "entry" f.metadata).elim "" Json.display
  shows : f.entryValue.printable = (Fields.get? "entry" f.metadata).all Json.printable
  decides : f.check = .ok () ↔ f.WellFormed
  checks : f.Checks
  settles : ∀ n, f.edges.length + 1 ≤ n → (Search.start f.entry).rounds f.successors n = ⟨f.reachable,[]⟩
  finds : ∀ id, id ∈ f.reachable ↔ Relation.ReflTransGen f.Joins f.entry id
  knows : f.entry ∈ f.ids → (∀ edge ∈ f.edges, edge.target ∈ f.ids) → ∀ id ∈ f.reachable, ∃ node, f.node? id = some node
  continues : f.check = .ok () → ∀ node ∈ f.nodes, f.Continues node

theorem check_examines (f : Flow) : f.Examined := by
  refine ⟨?_,?_,check_formed,check_cases f,fun n enough => search_settled f enough,fun id => mem_reachable,?_,?_⟩
  · rw [entry,entryValue]
    cases Fields.get? "entry" f.metadata <;> rfl
  · rw [entryValue]
    cases Fields.get? "entry" f.metadata <;> rfl
  · intro starts joined id found
    exact node_known (reachable_ids starts joined found)
  · intro accepted node member
    exact (check_formed.mp accepted).continues member

end Flow
end OrderDesk
