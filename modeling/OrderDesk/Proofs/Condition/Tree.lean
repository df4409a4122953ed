import OrderDesk.Condition.Evaluate

-- Condition trees by their children: induction over trees, and how the children of a group are asked one after
-- another until one of them settles it.
namespace OrderDesk

-- The answer of a child that leaves its group open.
def Junction.neutral : Junction → Bool
  | all => true
  | any => false

namespace Node

theorem tree_induction {P : Node → Prop} (leaf : ∀ c, P (.leaf c))
    (group : ∀ junction children, (∀ child ∈ children, P child) → P (.group junction children)) : ∀ n, P n := by
  refine @Node.rec P (fun children => ∀ child ∈ children, P child) leaf group ?_ ?_
  · simp
  · intro child rest first others own member
    rcases List.mem_cons.mp member with rfl | later
    · exact first
    · exact others own later

theorem mem_leavesOf {children : List Node} {c : Condition} : c ∈ leavesOf children ↔ ∃ child ∈ children, c ∈ child.leaves := by
  induction children with
  | nil => simp [leavesOf]
  | cons child rest ih => simp [leavesOf,ih]

section
variable {snapshot : Snapshot} {junction : Junction} {children : List Node}

theorem evaluate_nil : (group junction []).evaluate snapshot = .ok junction.neutral := by
  cases junction <;> rfl

theorem evaluate_open {child : Node} (rest : List Node) (left : child.evaluate snapshot = .ok junction.neutral) :
    (group junction (child :: rest)).evaluate snapshot = (group junction rest).evaluate snapshot := by
  cases junction <;> simp only [evaluate,evaluateAll,evaluateAny,left,Junction.neutral]

theorem evaluate_settled {child : Node} (rest : List Node) (settles : child.evaluate snapshot ≠ .ok junction.neutral) :
    (group junction (child :: rest)).evaluate snapshot = child.evaluate snapshot := by
  cases junction with
  | all =>
    rw [evaluate,evaluateAll]
    cases answer : child.evaluate snapshot with
    | error fault => rfl
    | ok met =>
      cases met with
      | true => exact absurd answer settles
      | false => rfl
  | any =>
    rw [evaluate,evaluateAny]
    cases answer : child.evaluate snapshot with
    | error fault => rfl
    | ok met =>
      cases met with
      | true => rfl
      | false => exact absurd answer settles

theorem group_open : (group junction children).evaluate snapshot = .ok junction.neutral ↔
    ∀ child ∈ children, child.evaluate snapshot = .ok junction.neutral := by
  induction children with
  | nil => simp [evaluate_nil]
  | cons child rest ih =>
    rw [List.forall_mem_cons]
    by_cases left : child.evaluate snapshot = .ok junction.neutral
    · rw [evaluate_open rest left,ih]
      exact ⟨fun others => ⟨left,others⟩,And.right⟩
    · rw [evaluate_settled rest left]
      exact ⟨fun own => absurd own left,And.left⟩

-- Any other outcome is that of the first child that does not leave the group open, whether it is an answer or a fault.
theorem group_settled {outcome : Except Fault Bool} (settles : outcome ≠ .ok junction.neutral) :
    (group junction children).evaluate snapshot = outcome ↔ ∃ before child after, children = before ++ child :: after ∧
      (∀ other ∈ before, other.evaluate snapshot = .ok junction.neutral) ∧ child.evaluate snapshot = outcome := by
  induction children with
  | nil =>
    rw [evaluate_nil]
    exact ⟨fun same => absurd same.symm settles,fun ⟨before,child,after,split,_⟩ => by simp at split⟩
  | cons first rest ih =>
    by_cases left : first.evaluate snapshot = .ok junction.neutral
    · rw [evaluate_open rest left,ih]
      constructor
      · rintro ⟨before,child,after,rfl,opened,own⟩
        exact ⟨first :: before,child,after,rfl,List.forall_mem_cons.mpr ⟨left,opened⟩,own⟩
      · rintro ⟨before,child,after,split,opened,own⟩
        cases before with
        | nil =>
          cases split
          exact absurd (own.symm.trans left) settles
        | cons other before =>
          cases split
          exact ⟨before,child,after,rfl,(List.forall_mem_cons.mp opened).2,own⟩
    · rw [evaluate_settled rest left]
      constructor
      · intro own
        exact ⟨[],first,rest,rfl,by simp,own⟩
      · rintro ⟨before,child,after,split,opened,own⟩
        cases before with
        | nil =>
          cases split
          exact own
        | cons other before =>
          cases split
          exact absurd (opened first List.mem_cons_self) left

-- Where every child has an answer, one that does not leave the group open is enough.
theorem group_decided (answered : ∀ child ∈ children, ∃ met, child.evaluate snapshot = .ok met) :
    (group junction children).evaluate snapshot = .ok (!junction.neutral) ↔
      ∃ child ∈ children, child.evaluate snapshot = .ok (!junction.neutral) := by
  constructor
  · intro decided
    obtain ⟨before,child,after,rfl,-,own⟩ := (group_settled (by simp)).mp decided
    exact ⟨child,by simp,own⟩
  · rintro ⟨child,member,own⟩
    induction children with
    | nil => cases member
    | cons first rest ih =>
      obtain ⟨met,answer⟩ := answered first List.mem_cons_self
      by_cases left : met = junction.neutral
      · rw [left] at answer
        rcases List.mem_cons.mp member with rfl | later
        · simp [answer] at own
        · rw [evaluate_open rest answer]
          exact ih (fun other belongs => answered other (List.mem_cons_of_mem first belongs)) later
      · rw [evaluate_settled rest (by simpa [answer] using left),answer,Bool.eq_not_of_ne left]

end

end Node
end OrderDesk
