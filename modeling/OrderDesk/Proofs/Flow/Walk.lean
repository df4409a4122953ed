import OrderDesk.Proofs.Flow.Draft

-- Walks through flows: from node to node as the outcomes of the checks decide. A walk that leaves a region
-- takes one of the links that lead out of it, and a walk that arrives took a link that leads there.
namespace OrderDesk

-- A node that is left, and the outcome that it is left with.
structure Pass where
  node : String
  outcome : Option Bool

-- What is passed on the way from one node to another. Outcomes are arbitrary.
inductive Walk (next? : String → Option Bool → Option String) : String → List Pass → String → Prop where
  | stay {here : String} : Walk next? here [] here
  | go {here next last : String} {outcome : Option Bool} {passed : List Pass} (taken : next? here outcome = some next)
      (onward : Walk next? next passed last) : Walk next? here (⟨here,outcome⟩ :: passed) last

namespace Walk
variable {next? : String → Option Bool → Option String} {a b c : String} {passed first second : List Pass} {pass : Pass}

theorem split (walk : Walk next? a (first ++ second) c) : ∃ b, Walk next? a first b ∧ Walk next? b second c := by
  induction first generalizing a with
  | nil => exact ⟨a,.stay,walk⟩
  | cons pass first ih =>
    cases walk with
    | go taken onward =>
      obtain ⟨b,front,back⟩ := ih onward
      exact ⟨b,.go taken front,back⟩

theorem first_step (walk : Walk next? a (pass :: passed) c) :
    pass.node = a ∧ ∃ b, next? a pass.outcome = some b ∧ Walk next? b passed c := by
  cases walk with
  | go taken onward => exact ⟨rfl,_,taken,onward⟩

theorem nothing (walk : Walk next? a [] c) : c = a := by
  cases walk
  rfl

-- Every node that is passed ends a shorter walk.
theorem shorter (walk : Walk next? a (first ++ pass :: second) c) : Walk next? a first pass.node := by
  obtain ⟨b,front,back⟩ := split walk
  obtain ⟨same,-⟩ := first_step back
  rw [same]
  exact front

end Walk

namespace Draft

-- A link as it is taken with an outcome.
structure Taken (links : List Link) (l : Link) (outcome : Option Bool) : Prop where
  listed : l ∈ links
  label : l.label = Label.ofOutcome outcome ∨ l.label = .always

-- Links that are for an outcome are taken with that outcome only.
theorem Taken.outcome {links : List Link} {l : Link} {outcome : Option Bool} {holds : Bool} (taken : Taken links l outcome)
    (label : l.label = Label.ofOutcome (some holds)) : outcome = some holds := by
  have asked := taken.label
  rw [label] at asked
  cases outcome with
  | none => cases holds <;> rcases asked with same | same <;> cases same
  | some own => cases holds <;> cases own <;> first | rfl | (rcases asked with same | same <;> cases same)

def next? (links : List Link) (key : String) (outcome : Option Bool) : Option String :=
  ((leaving links key).find? fun link => link.label == Label.ofOutcome outcome || link.label == .always).map Link.target

theorem next_taken {links : List Link} {key next : String} {outcome : Option Bool} (found : next? links key outcome = some next) :
    ∃ l, Taken links l outcome ∧ l.source = key ∧ l.target = next := by
  unfold next? at found
  obtain ⟨l,chosen,target⟩ := Option.map_eq_some_iff.mp found
  obtain ⟨member,source⟩ := List.mem_filter.mp (List.mem_of_find?_eq_some chosen)
  have label := List.find?_some chosen
  simp only [Bool.or_eq_true,beq_iff_eq] at label source
  exact ⟨l,⟨member,label⟩,source,target⟩

-- Whether one outcome, given again and again, leads to a node in time.
def comesTo (links : List Link) (outcome : Option Bool) (last : String) : Nat → String → Bool
  | 0,key => key == last
  | steps + 1,key => key == last || (next? links key outcome).any (comesTo links outcome last steps)

-- The keys of a draft with their roles.
def roles (plan : Draft) : List (String × Role) := plan.nodes.map fun node => (node.key,node.role)

end Draft

namespace Flow

-- The flow has a node of this id and role.
def Plays (f : Flow) (id : String) (role : Role) : Prop := ∃ node ∈ f.nodes, node.id = id ∧ node.role = role

section
open Draft
variable {d : FlowDefaults} {owner : Json} {kind : Kind} {now : Timestamp} {plan : Draft} {key a b last : String}
  {passed : List Pass} {pass : Pass}

theorem ofDraft_next (key : String) (outcome : Option Bool) : (ofDraft d owner kind now plan).next? (nodeId owner key) outcome =
    (Draft.next? plan.links key outcome).map (nodeId owner) := by
  rw [Flow.next?,ofDraft_outgoing,Draft.next?,List.find?_map]
  simp [Function.comp_def,Link.finish]

theorem ofDraft_plays {id : String} {role : Role} : (ofDraft d owner kind now plan).Plays id role ↔
    ∃ key, id = nodeId owner key ∧ (key,role) ∈ plan.roles := by
  constructor
  · rintro ⟨node,member,same,role⟩
    obtain ⟨drafted,listed,rfl⟩ := List.mem_map.mp member
    refine ⟨drafted.key,same.symm,List.mem_map.mpr ⟨drafted,listed,?_⟩⟩
    rw [← role]
    rfl
  · rintro ⟨key,rfl,member⟩
    obtain ⟨drafted,listed,same⟩ := List.mem_map.mp member
    cases same
    exact ⟨drafted.finish owner,List.mem_map_of_mem listed,rfl,rfl⟩

theorem ofDraft_first_step (walk : Walk (ofDraft d owner kind now plan).next? (nodeId owner a) (pass :: passed) last) :
    pass.node = nodeId owner a ∧ ∃ l, Taken plan.links l pass.outcome ∧ l.source = a ∧
      Walk (ofDraft d owner kind now plan).next? (nodeId owner l.target) passed last := by
  obtain ⟨node,next,found,onward⟩ := walk.first_step
  rw [ofDraft_next] at found
  obtain ⟨target,leads,rfl⟩ := Option.map_eq_some_iff.mp found
  obtain ⟨l,taken,source,rfl⟩ := next_taken leads
  exact ⟨node,l,taken,source,onward⟩

-- A walk ends at a node of the draft.
theorem ofDraft_stays (walk : Walk (ofDraft d owner kind now plan).next? (nodeId owner a) passed last) :
    ∃ key, last = nodeId owner key := by
  induction passed generalizing a with
  | nil => exact ⟨a,walk.nothing⟩
  | cons pass passed ih =>
    obtain ⟨-,l,-,-,onward⟩ := ofDraft_first_step walk
    exact ih onward

-- The last link of a walk that moves.
theorem ofDraft_arrives (walk : Walk (ofDraft d owner kind now plan).next? (nodeId owner a) passed (nodeId owner b)) (moves : b ≠ a) :
    ∃ earlier pass l, passed = earlier ++ [pass] ∧ Taken plan.links l pass.outcome ∧ pass.node = nodeId owner l.source ∧
      l.target = b := by
  rcases List.eq_nil_or_concat passed with rfl | ⟨earlier,pass,rfl⟩
  · exact absurd (nodeId_injective walk.nothing) moves
  · rw [List.concat_eq_append] at walk ⊢
    obtain ⟨middle,front,back⟩ := walk.split
    obtain ⟨key,rfl⟩ := ofDraft_stays front
    obtain ⟨node,l,taken,rfl,onward⟩ := ofDraft_first_step back
    exact ⟨earlier,pass,l,rfl,taken,node,(nodeId_injective onward.nothing).symm⟩

-- A walk from inside a region to its outside takes a link that leads out.
theorem ofDraft_crosses (region : String → Bool)
    (walk : Walk (ofDraft d owner kind now plan).next? (nodeId owner a) passed (nodeId owner b)) (inside : region a = true)
    (outside : region b = false) : ∃ pass ∈ passed, ∃ l, Taken plan.links l pass.outcome ∧ pass.node = nodeId owner l.source ∧
      region l.source = true ∧ region l.target = false := by
  induction passed generalizing a with
  | nil =>
    rw [nodeId_injective walk.nothing,inside] at outside
    cases outside
  | cons pass passed ih =>
    obtain ⟨node,l,taken,rfl,onward⟩ := ofDraft_first_step walk
    cases within : region l.target with
    | false => exact ⟨pass,List.mem_cons_self,l,taken,node,inside,within⟩
    | true =>
      obtain ⟨other,member,rest⟩ := ih onward within
      exact ⟨other,List.mem_cons_of_mem pass member,rest⟩

-- A walk stays in a region that no link leads out of.
theorem ofDraft_confined {region : String → Bool}
    (closed : ∀ l ∈ plan.links, region l.source = true → region l.target = true)
    (walk : Walk (ofDraft d owner kind now plan).next? (nodeId owner a) passed (nodeId owner b)) (inside : region a = true) :
    region b = true := by
  rw [← Bool.not_eq_false]
  intro outside
  obtain ⟨pass,-,l,taken,-,source,target⟩ := ofDraft_crosses region walk inside outside
  rw [closed l taken.listed source] at target
  cases target

theorem ofDraft_comes {outcome : Option Bool} {key : String} (steps : Nat)
    (comes : comesTo plan.links outcome b steps key = true) :
    ∃ passed, Walk (ofDraft d owner kind now plan).next? (nodeId owner key) passed (nodeId owner b) := by
  induction steps generalizing key with
  | zero =>
    rw [eq_of_beq comes]
    exact ⟨[],.stay⟩
  | succ steps ih =>
    rw [comesTo,Bool.or_eq_true] at comes
    rcases comes with here | onward
    · rw [eq_of_beq here]
      exact ⟨[],.stay⟩
    · obtain ⟨next,found,later⟩ := (Option.any_eq_true _ _).mp onward
      obtain ⟨passed,walk⟩ := ih later
      refine ⟨⟨nodeId owner key,outcome⟩ :: passed,.go ?_ walk⟩
      rw [ofDraft_next,found]
      rfl

end

end Flow
end OrderDesk
