import OrderDesk.Proofs.Condition.Compare
import OrderDesk.Proofs.Condition.Report
import OrderDesk.Proofs.Condition.Tree
import OrderDesk.Proofs.Validation.Reread

-- Whether a condition tree has an answer. Missing values and values of another kind make a leaf false; the one
-- thing that takes the answer away is a whole number past every float, at a leaf that is equal or different to
-- a number. Evaluation fails where such a leaf is reached, a report where there is one.
namespace OrderDesk

def Condition.Overlong (c : Condition) (snapshot : Snapshot) : Prop := c.test.Overlong (c.actual snapshot)

theorem Condition.met_outcome (c : Condition) (snapshot : Snapshot) : c.test.Outcome (c.actual snapshot) (c.met snapshot) :=
  Test.compare_outcome c.test (c.actual snapshot)

theorem Condition.met_error {c : Condition} {snapshot : Snapshot} {fault : Fault} :
    c.met snapshot = .error fault ↔ fault = .overflow ∧ c.Overlong snapshot := by
  have outcome := c.met_outcome snapshot
  generalize c.met snapshot = answer at outcome
  cases outcome with
  | compared met suited near => simp [Overlong,near]
  | unsuited other =>
    have near : ¬ c.test.Overlong (c.actual snapshot) := fun far => by
      rw [far.suited] at other
      cases other
    simp [Overlong,near]
  | overlong far => simp [Overlong,far,eq_comm]

theorem Condition.met_unsuited {c : Condition} {snapshot : Snapshot} (other : c.test.suits (c.actual snapshot) = false) :
    c.met snapshot = .ok false := by
  have outcome := c.met_outcome snapshot
  generalize c.met snapshot = answer at outcome
  cases outcome with
  | compared met suited near =>
    rw [suited] at other
    cases other
  | unsuited => rfl
  | overlong far =>
    rw [far.suited] at other
    cases other

theorem answered_iff {x : Except ε α} : (∃ a, x = .ok a) ↔ ∀ fault, x ≠ .error fault := by
  cases x with
  | ok a => simp
  | error fault => simp

namespace Node

-- The leaves that are looked at until a tree is settled.
inductive Reaches (snapshot : Snapshot) : Node → Condition → Prop where
  | leaf (c : Condition) : Reaches snapshot (.leaf c) c
  | child {junction : Junction} {before after : List Node} {child : Node} {c : Condition}
      (opened : ∀ other ∈ before, other.evaluate snapshot = .ok junction.neutral) (inner : Reaches snapshot child c) :
      Reaches snapshot (.group junction (before ++ child :: after)) c

section
variable {snapshot : Snapshot} {n : Node} {fault : Fault}

theorem Reaches.leaf_mem {c : Condition} (reached : n.Reaches snapshot c) : c ∈ n.leaves := by
  induction reached with
  | leaf c => simp [leaves]
  | child opened inner ih =>
    rw [leaves,mem_leavesOf]
    exact ⟨_,by simp,ih⟩

theorem evaluate_error : n.evaluate snapshot = .error fault ↔ fault = .overflow ∧ ∃ c, n.Reaches snapshot c ∧ c.Overlong snapshot := by
  induction n using tree_induction with
  | leaf c =>
    rw [evaluate,Condition.met_error]
    refine and_congr_right fun _ => ⟨fun far => ⟨c,.leaf c,far⟩,?_⟩
    rintro ⟨own,reached,far⟩
    cases reached
    exact far
  | group junction children ih =>
    rw [group_settled (by simp)]
    constructor
    · rintro ⟨before,child,after,rfl,opened,failed⟩
      obtain ⟨same,c,inner,far⟩ := (ih child (by simp)).mp failed
      exact ⟨same,c,.child opened inner,far⟩
    · rintro ⟨same,c,reached,far⟩
      cases reached with
      | child opened inner =>
        rename_i before after child
        exact ⟨before,child,after,rfl,opened,(ih child (by simp)).mpr ⟨same,c,inner,far⟩⟩

theorem reports_error {children : List Node} (failed : reports snapshot children = .error fault) :
    ∃ child ∈ children, child.report snapshot = .error fault := by
  induction children with
  | nil => cases failed
  | cons child rest ih =>
    rw [reports] at failed
    split at failed
    · rename_i own reported
      cases failed
      exact ⟨child,List.mem_cons_self,reported⟩
    · cases others : reports snapshot rest with
      | ok results =>
        rw [others] at failed
        cases failed
      | error own =>
        rw [others] at failed
        cases failed
        obtain ⟨later,member,reported⟩ := ih others
        exact ⟨later,List.mem_cons_of_mem child member,reported⟩

theorem report_error (failed : n.report snapshot = .error fault) : ∃ c ∈ n.leaves, c.met snapshot = .error fault := by
  induction n using tree_induction with
  | leaf c =>
    rw [report] at failed
    cases answer : c.met snapshot with
    | ok met =>
      rw [answer] at failed
      cases failed
    | error own =>
      rw [answer] at failed
      cases failed
      exact ⟨c,by simp [leaves],answer⟩
  | group junction children ih =>
    rw [report] at failed
    cases others : reports snapshot children with
    | ok results =>
      rw [others] at failed
      cases failed
    | error own =>
      rw [others] at failed
      cases failed
      obtain ⟨child,member,reported⟩ := reports_error others
      obtain ⟨c,inner,answer⟩ := ih child member reported
      exact ⟨c,mem_leavesOf.mpr ⟨child,member,inner⟩,answer⟩

end

-- What a tree answers, asked in either way.
structure Answers (n : Node) (snapshot : Snapshot) : Prop where
  evaluated : (∃ met, n.evaluate snapshot = .ok met) ↔ ∀ c, n.Reaches snapshot c → ¬ c.Overlong snapshot
  reported : (∃ r, n.report snapshot = .ok r) ↔ ∀ c ∈ n.leaves, ¬ c.Overlong snapshot
  fails : ∀ fault, n.evaluate snapshot = .error fault ∨ n.report snapshot = .error fault → fault = .overflow
  unsuited : ∀ c ∈ n.leaves, c.test.suits (Snapshot.resolve snapshot c.field) = false → (leaf c).evaluate snapshot = .ok false

theorem tree_answers (n : Node) (snapshot : Snapshot) : n.Answers snapshot := by
  refine ⟨?_,?_,?_,?_⟩
  · rw [answered_iff]
    constructor
    · intro answers c reached far
      exact answers .overflow (evaluate_error.mpr ⟨rfl,c,reached,far⟩)
    · intro near fault failed
      obtain ⟨-,c,reached,far⟩ := evaluate_error.mp failed
      exact near c reached far
  · constructor
    · rintro ⟨r,made⟩ c member far
      have covers := report_covers n made
      rw [← covers.listed] at member
      obtain ⟨d,told,rfl⟩ := List.mem_map.mp member
      have met : d.condition.met snapshot = .ok d.met := (evaluateAll_single snapshot _).symm.trans (covers.met d told)
      rw [Condition.met_error.mpr ⟨rfl,far⟩] at met
      cases met
    · intro near
      rw [answered_iff]
      intro fault failed
      obtain ⟨c,member,answer⟩ := report_error failed
      exact near c member (Condition.met_error.mp answer).2
  · rintro fault (failed | failed)
    · exact (evaluate_error.mp failed).1
    · obtain ⟨c,-,answer⟩ := report_error failed
      exact (Condition.met_error.mp answer).1
  · intro c _ other
    exact Condition.met_unsuited other

-- Met by its first leaf, while the second one looks at a whole number that no float is near.
def priced : Condition := ⟨"a",.greater 1⟩

def counted : Condition := ⟨"x",.equal (.number 1)⟩

def tower : Int := Int.pow 10 400

def vast : Snapshot := [("a",.int 2),("x",.int tower)]

theorem counted_overlong : counted.Overlong vast := by
  have found : counted.actual vast = .int tower := by
    rw [Condition.actual,counted,resolve_plain (by decide +kernel)]
    rfl
  have far : Binary64.reach ≤ tower.natAbs := by decide +kernel
  rw [Condition.Overlong,found]
  exact far

theorem vast_answers : (group .any [.leaf priced,.leaf counted]).Answers vast ∧
    (group .any [.leaf priced,.leaf counted]).evaluate vast = .ok true ∧
    (group .any [.leaf priced,.leaf counted]).report vast = .error .overflow ∧
    (leaf counted).Answers vast ∧ (leaf counted).evaluate vast = .error .overflow := by
  have either := tree_answers (group .any [.leaf priced,.leaf counted]) vast
  have alone := tree_answers (leaf counted) vast
  refine ⟨either,?_,?_,alone,?_⟩
  · have met : priced.met vast = .ok true := Checked.toOption_eq_some.mp (by decide +kernel)
    rw [evaluate,evaluateAny,evaluate,met]
  · cases made : (group .any [.leaf priced,.leaf counted]).report vast with
    | ok r => exact absurd counted_overlong (either.reported.mp ⟨r,made⟩ counted (by simp [leaves,leavesOf]))
    | error fault => rw [either.fails fault (Or.inr made)]
  · cases answer : (leaf counted).evaluate vast with
    | ok met => exact absurd counted_overlong (alone.evaluated.mp ⟨met,answer⟩ counted (.leaf counted))
    | error fault => rw [alone.fails fault (Or.inl answer)]

end Node
end OrderDesk
