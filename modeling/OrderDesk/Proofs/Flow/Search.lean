import Mathlib.Data.List.Nodup
import Mathlib.Data.List.Perm.Subperm
import Mathlib.Logic.Relation
import OrderDesk.Flow.Check

-- What a search finds is what can be reached, whatever loops the graph has. No node is found twice and each
-- round takes one of them off the queue, so on a graph with finitely many edges the queue runs empty.
namespace OrderDesk

namespace Search
variable {successors : String → List String} {s : Search} {first id : String} {ids targets : List String}

-- One meeting after the other: what is new is found and waits, and nothing else changes.
structure Meets (ids fresh : List String) (before after : Search) : Prop where
  found : after.found = before.found ++ fresh
  waiting : after.waiting = before.waiting ++ fresh
  listed : ∀ id ∈ fresh, id ∈ ids
  met : ∀ id ∈ ids, id ∈ after.found
  distinct : before.found.Nodup → after.found.Nodup

theorem meet_meets (s : Search) (id : String) : ∃ fresh, Meets [id] fresh s (s.meet id) := by
  unfold meet
  split
  · rename_i known
    refine ⟨[],⟨by simp,by simp,by simp,?_,fun distinct => distinct⟩⟩
    intro other same
    rw [List.mem_singleton.mp same]
    exact List.contains_iff_mem.mp known
  · rename_i unknown
    refine ⟨[id],⟨rfl,rfl,by simp,by simp,?_⟩⟩
    intro distinct
    refine List.nodup_append.mpr ⟨distinct,List.nodup_singleton id,?_⟩
    intro a member b same equal
    apply unknown
    rw [List.contains_iff_mem,← List.mem_singleton.mp same,← equal]
    exact member

theorem Meets.trans {more fresh later : List String} {before middle after : Search} (front : Meets ids fresh before middle)
    (back : Meets more later middle after) : Meets (ids ++ more) (fresh ++ later) before after := by
  refine ⟨?_,?_,?_,?_,fun distinct => back.distinct (front.distinct distinct)⟩
  · rw [back.found,front.found,List.append_assoc]
  · rw [back.waiting,front.waiting,List.append_assoc]
  · intro id member
    apply List.mem_append.mpr
    exact (List.mem_append.mp member).imp (front.listed id) (back.listed id)
  · intro id member
    cases List.mem_append.mp member with
    | inl early =>
      rw [back.found]
      exact List.mem_append_left later (front.met id early)
    | inr late => exact back.met id late

theorem foldl_meets (ids : List String) (s : Search) : ∃ fresh, Meets ids fresh s (ids.foldl meet s) := by
  induction ids generalizing s with
  | nil => exact ⟨[],⟨by simp,by simp,by simp,by simp,fun distinct => distinct⟩⟩
  | cons id rest ih =>
    obtain ⟨fresh,front⟩ := meet_meets s id
    obtain ⟨later,back⟩ := ih (s.meet id)
    exact ⟨fresh ++ later,front.trans back⟩

-- What holds of a search at any time. The edges of a node that does not wait any more lead to nodes that were found.
structure Sound (successors : String → List String) (first : String) (s : Search) : Prop where
  distinct : s.found.Nodup
  starts : first ∈ s.found
  queued : ∀ id ∈ s.waiting, id ∈ s.found
  reached : ∀ id ∈ s.found, Relation.ReflTransGen (fun a b => b ∈ successors a) first id
  followed : ∀ id ∈ s.found, id ∈ s.waiting ∨ ∀ next ∈ successors id, next ∈ s.found

theorem start_sound : Sound successors first (start first) := by
  refine ⟨List.nodup_singleton first,List.mem_singleton_self first,fun id member => member,?_,?_⟩
  · intro id member
    rw [List.mem_singleton.mp member]
  · intro id member
    exact Or.inl member

theorem round_sound (sound : Sound successors first s) : Sound successors first (s.round successors) := by
  unfold round
  split
  · exact sound
  · rename_i id waiting queue
    obtain ⟨fresh,meets⟩ := foldl_meets (successors id) ⟨s.found,waiting⟩
    have held : id ∈ s.found := sound.queued id (by simp [queue])
    have kept (other : String) (member : other ∈ s.found) : other ∈ ((successors id).foldl meet ⟨s.found,waiting⟩).found := by
      rw [meets.found]
      exact List.mem_append_left fresh member
    refine ⟨meets.distinct sound.distinct,kept first sound.starts,?_,?_,?_⟩
    · intro other member
      rw [meets.waiting] at member
      rw [meets.found]
      apply List.mem_append.mpr
      refine (List.mem_append.mp member).imp (fun waits => sound.queued other ?_) (fun new => new)
      rw [queue]
      exact List.mem_cons_of_mem id waits
    · intro other member
      rw [meets.found] at member
      cases List.mem_append.mp member with
      | inl old => exact sound.reached other old
      | inr new => exact (sound.reached id held).tail (meets.listed other new)
    · intro other member
      rw [meets.found] at member
      rw [meets.waiting]
      cases List.mem_append.mp member with
      | inr new => exact Or.inl (List.mem_append_right waiting new)
      | inl old =>
        cases sound.followed other old with
        | inr all => exact Or.inr fun next leads => kept next (all next leads)
        | inl waits =>
          rw [queue] at waits
          cases List.mem_cons.mp waits with
          | inl same =>
            rw [same]
            exact Or.inr meets.met
          | inr still => exact Or.inl (List.mem_append_left fresh still)

theorem rounds_sound (n : Nat) (sound : Sound successors first s) : Sound successors first (s.rounds successors n) := by
  induction n generalizing s with
  | zero => exact sound
  | succ n ih => exact ih (round_sound sound)

theorem round_empty (empty : s.waiting = []) : s.round successors = s := by
  unfold round
  rw [empty]

theorem rounds_empty (n : Nat) (empty : s.waiting = []) : s.rounds successors n = s := by
  induction n with
  | zero => rfl
  | succ n ih => rw [rounds,round_empty empty,ih]

theorem rounds_add (m n : Nat) : s.rounds successors (m + n) = (s.rounds successors m).rounds successors n := by
  induction m generalizing s with
  | zero => rw [Nat.zero_add]; rfl
  | succ m ih =>
    rw [Nat.succ_add]
    exact ih

-- Every round takes one node off the queue, and what is found joins it.
theorem round_counts (successors : String → List String) (done : Nat) (counted : s.found.length = s.waiting.length + done) :
    s.waiting = [] ∨ (s.round successors).found.length = (s.round successors).waiting.length + (done + 1) := by
  unfold round
  split
  · exact Or.inl ‹_›
  · rename_i id waiting queue
    obtain ⟨fresh,meets⟩ := foldl_meets (successors id) ⟨s.found,waiting⟩
    rw [queue,List.length_cons] at counted
    right
    rw [meets.found,meets.waiting,List.length_append,List.length_append]
    dsimp only
    omega

theorem rounds_counts (successors : String → List String) (n done : Nat)
    (counted : s.found.length = s.waiting.length + done) :
    (s.rounds successors n).waiting = [] ∨
      (s.rounds successors n).found.length = (s.rounds successors n).waiting.length + (done + n) := by
  induction n generalizing s done with
  | zero => exact Or.inr counted
  | succ n ih =>
    cases round_counts successors done counted with
    | inl empty => exact Or.inl (by rw [rounds_empty _ empty,empty])
    | inr step =>
      have later := ih (done + 1) step
      rwa [Nat.add_assoc,Nat.add_comm 1 n] at later

theorem Sound.bounded (sound : Sound successors first s) (edges : ∀ a, ∀ b ∈ successors a, b ∈ targets) :
    s.found.length ≤ targets.length + 1 := by
  have within : s.found ⊆ first :: targets := by
    intro id member
    cases Relation.ReflTransGen.cases_tail (sound.reached id member) with
    | inl same => exact List.mem_cons.mpr (Or.inl same)
    | inr last =>
      obtain ⟨before,-,leads⟩ := last
      exact List.mem_cons_of_mem first (edges before id leads)
  have short := (List.Nodup.subperm sound.distinct within).length_le
  rwa [List.length_cons] at short

-- The queue is empty in time.
theorem rounds_end (first : String) (edges : ∀ a, ∀ b ∈ successors a, b ∈ targets) :
    ((start first).rounds successors (targets.length + 1)).waiting = [] := by
  have sound : Sound successors first ((start first).rounds successors (targets.length + 1)) :=
    rounds_sound _ start_sound
  cases rounds_counts successors (s:=start first) (targets.length + 1) 0 rfl with
  | inl empty => exact empty
  | inr counted =>
    have short := sound.bounded edges
    apply List.length_eq_zero_iff.mp
    omega

-- With an empty queue, what was found is closed under the edges of the graph.
theorem Sound.found_iff (sound : Sound successors first s) (empty : s.waiting = []) :
    id ∈ s.found ↔ Relation.ReflTransGen (fun a b => b ∈ successors a) first id := by
  constructor
  · intro member
    exact sound.reached id member
  · intro path
    induction path with
    | refl => exact sound.starts
    | @tail a b _ leads ih =>
      cases sound.followed a ih with
      | inl waits =>
        rw [empty] at waits
        cases waits
      | inr all => exact all b leads

-- Waiting may go round in a loop.
example : ((start "ask").rounds (fun id => if id == "ask" then ["done","wait","wait"] else if id == "wait" then ["wait","ask"] else []) 6) =
    ⟨["ask","done","wait"],[]⟩ := by
  rfl

-- The same search among nodes of other names.

def rename (g : String → String) (s : Search) : Search := ⟨s.found.map g,s.waiting.map g⟩

theorem meet_rename {g : String → String} (injective : Function.Injective g) (s : Search) (id : String) :
    (s.rename g).meet (g id) = (s.meet id).rename g := by
  have same : (s.found.map g).contains (g id) = s.found.contains id := by
    rw [Bool.eq_iff_iff,List.contains_iff_mem,List.contains_iff_mem,List.mem_map_of_injective injective]
  simp only [meet,rename,same]
  split <;> simp

theorem foldl_rename {g : String → String} (injective : Function.Injective g) (ids : List String) (s : Search) :
    (ids.map g).foldl meet (s.rename g) = (ids.foldl meet s).rename g := by
  induction ids generalizing s with
  | nil => rfl
  | cons id rest ih =>
    rw [List.map_cons,List.foldl_cons,List.foldl_cons,meet_rename injective]
    exact ih (s.meet id)

theorem rounds_rename {g : String → String} {other : String → List String} (injective : Function.Injective g)
    (renamed : ∀ id, other (g id) = (successors id).map g) (n : Nat) (s : Search) :
    (s.rename g).rounds other n = (s.rounds successors n).rename g := by
  induction n generalizing s with
  | zero => rfl
  | succ n ih =>
    have step : (s.rename g).round other = (s.round successors).rename g := by
      obtain ⟨found,waiting⟩ := s
      cases waiting with
      | nil => rfl
      | cons id waiting =>
        simp only [round,rename,List.map_cons,renamed id]
        exact foldl_rename injective (successors id) ⟨found,waiting⟩
    rw [rounds,rounds,step]
    exact ih (s.round successors)

end Search
end OrderDesk
