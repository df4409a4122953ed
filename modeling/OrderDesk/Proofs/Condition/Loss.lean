import OrderDesk.Proofs.Condition.Answer

-- Snapshots that lack data. A tree that is true of a snapshot is true of every snapshot that has what the first
-- one has and more, and of no data at all only what empty groups make true is true.
namespace OrderDesk

namespace Node

-- One snapshot has at the leaves what the other has there, or nothing.
def Loses (n : Node) (full part : Snapshot) : Prop := ∀ c ∈ n.leaves,
  Snapshot.resolve part c.field = .null ∨ Snapshot.resolve part c.field = Snapshot.resolve full c.field

-- Whole numbers at the leaves are within the reach of floats.
def Near (n : Node) (snapshot : Snapshot) : Prop := ∀ c ∈ n.leaves, ∀ i,
  Snapshot.resolve snapshot c.field = .int i → i.natAbs < Binary64.reach

def Blind (n : Node) (snapshot : Snapshot) : Prop := ∀ c ∈ n.leaves, Snapshot.resolve snapshot c.field = .null

-- Every group that asks for all of its children has some.
inductive Filled : Node → Prop where
  | leaf (c : Condition) : Filled (.leaf c)
  | group {junction : Junction} {children : List Node} (nonempty : junction = .all → children ≠ [])
      (held : ∀ child ∈ children, Filled child) : Filled (.group junction children)

-- True of no data at all: an empty group that asks for all, and what is made of it.
inductive Hollow : Node → Prop where
  | all {children : List Node} (held : ∀ child ∈ children, Hollow child) : Hollow (.group .all children)
  | any {children : List Node} {child : Node} (member : child ∈ children) (held : Hollow child) :
      Hollow (.group .any children)

theorem Filled.solid {n : Node} (filled : n.Filled) : ¬ n.Hollow := by
  induction filled with
  | leaf c =>
    intro hollow
    cases hollow
  | group nonempty held ih =>
    intro hollow
    cases hollow with
    | all others =>
      obtain ⟨first,member⟩ := List.exists_mem_of_ne_nil _ (nonempty rfl)
      exact ih first member (others first member)
    | any member own => exact ih _ member own

section
variable {n : Node} {snapshot full part : Snapshot} {junction : Junction} {children : List Node} {child : Node}

theorem Loses.inner (loses : (group junction children).Loses full part) (member : child ∈ children) : child.Loses full part :=
  fun c own => loses c (mem_leavesOf.mpr ⟨child,member,own⟩)

theorem Near.inner (near : (group junction children).Near snapshot) (member : child ∈ children) : child.Near snapshot :=
  fun c own => near c (mem_leavesOf.mpr ⟨child,member,own⟩)

theorem Blind.inner (blind : (group junction children).Blind snapshot) (member : child ∈ children) : child.Blind snapshot :=
  fun c own => blind c (mem_leavesOf.mpr ⟨child,member,own⟩)

theorem Blind.near (blind : n.Blind snapshot) : n.Near snapshot := by
  intro c member i whole
  rw [blind c member] at whole
  cases whole

theorem Near.answered (near : n.Near snapshot) : ∃ met, n.evaluate snapshot = .ok met := by
  rw [answered_iff]
  intro fault failed
  obtain ⟨-,c,reached,far⟩ := evaluate_error.mp failed
  obtain ⟨i,whole,large⟩ := far.whole
  exact absurd (near c reached.leaf_mem i whole) (Nat.not_lt.mpr large)

theorem met_null {c : Condition} (missing : Snapshot.resolve snapshot c.field = .null) : c.met snapshot = .ok false := by
  refine Condition.met_unsuited ?_
  rw [Condition.actual,missing]
  exact Test.suits_null c.test

-- No test is true of null, and no junction turns an answer round.
theorem evaluate_kept (loses : n.Loses full part) (near : n.Near full) (met : n.evaluate part = .ok true) :
    n.evaluate full = .ok true := by
  induction n using tree_induction with
  | leaf c =>
    rw [evaluate] at met ⊢
    rcases loses c (by simp [leaves]) with missing | same
    · rw [met_null missing] at met
      cases met
    · rwa [Condition.met,Condition.actual,← same]
  | group junction children ih =>
    cases junction with
    | all =>
      refine group_open.mpr fun child member => ?_
      exact ih child member (loses.inner member) (near.inner member) (group_open.mp met child member)
    | any =>
      obtain ⟨before,child,after,rfl,-,own⟩ := (group_settled (by simp [Junction.neutral])).mp met
      have member : child ∈ before ++ child :: after := by simp
      refine (group_decided fun other belongs => (near.inner belongs).answered).mpr ⟨child,member,?_⟩
      exact ih child member (loses.inner member) (near.inner member) own

theorem evaluate_blind (blind : n.Blind snapshot) : n.evaluate snapshot = .ok true ↔ n.Hollow := by
  induction n using tree_induction with
  | leaf c =>
    rw [evaluate,met_null (blind c (by simp [leaves]))]
    constructor
    · intro met
      cases met
    · intro hollow
      cases hollow
  | group junction children ih =>
    cases junction with
    | all =>
      rw [show (.ok true : Except Fault Bool) = .ok Junction.all.neutral from rfl,group_open]
      constructor
      · exact fun held => .all fun child member => (ih child member (blind.inner member)).mp (held child member)
      · rintro (held | _) child member
        exact (ih child member (blind.inner member)).mpr (held child member)
    | any =>
      have answered : ∀ child ∈ children, ∃ met, child.evaluate snapshot = .ok met :=
        fun child member => (blind.inner member).near.answered
      rw [show (.ok true : Except Fault Bool) = .ok !Junction.any.neutral from rfl,group_decided answered]
      constructor
      · rintro ⟨child,member,own⟩
        exact .any member ((ih child member (blind.inner member)).mp own)
      · rintro (_ | ⟨member,held⟩)
        exact ⟨_,member,(ih _ member (blind.inner member)).mpr held⟩

end

-- What the lack of data does to a tree.
structure Cautious (n : Node) : Prop where
  kept : ∀ full part, n.Loses full part → n.Near full → n.evaluate part = .ok true → n.evaluate full = .ok true
  blind : ∀ snapshot, n.Blind snapshot → (∃ met, n.evaluate snapshot = .ok met) ∧ (n.evaluate snapshot = .ok true ↔ n.Hollow)
  filled : n.Filled → ∀ snapshot, n.Blind snapshot → n.evaluate snapshot = .ok false

theorem tree_cautious (n : Node) : n.Cautious := by
  refine ⟨fun full part => evaluate_kept,fun snapshot blind => ⟨blind.near.answered,evaluate_blind blind⟩,?_⟩
  intro filled snapshot blind
  obtain ⟨met,answer⟩ := blind.near.answered
  cases met with
  | false => exact answer
  | true => exact absurd ((evaluate_blind blind).mp answer) filled.solid

-- Cheap, and either another token or traded at all. Without the token's name the trade alone decides.
def cheap : Condition := ⟨"price",.less 3000⟩

def foreign : Condition := ⟨"token",.different (.text "BTC")⟩

def traded : Condition := ⟨"volume",.greater 0⟩

def watched : Node := .group .all [.leaf cheap,.group .any [.leaf foreign,.leaf traded]]

def nameless : Snapshot := [("price",.int 2500),("volume",.int 7)]

def named : Snapshot := ("token",.str "ETH") :: nameless

theorem watched_leaves {c : Condition} (member : c ∈ watched.leaves) : c = cheap ∨ c = foreign ∨ c = traded := by
  simpa [watched,leaves,leavesOf] using member

theorem watched_found {c : Condition} (member : c ∈ watched.leaves) (snapshot : Snapshot) :
    Snapshot.resolve snapshot c.field = (Fields.get? c.field snapshot).getD .null := by
  rcases watched_leaves member with rfl | rfl | rfl
  · exact resolve_plain (by decide +kernel)
  · exact resolve_plain (by decide +kernel)
  · exact resolve_plain (by decide +kernel)

theorem watched_filled : watched.Filled := by
  refine .group (fun _ => by simp) fun child member => ?_
  rcases List.mem_cons.mp member with rfl | member
  · exact .leaf cheap
  · rw [List.mem_singleton.mp member]
    refine .group (fun _ => by simp) fun child member => ?_
    rcases List.mem_cons.mp member with rfl | member
    · exact .leaf foreign
    · rw [List.mem_singleton.mp member]
      exact .leaf traded

theorem watched_cautious : watched.Loses named nameless ∧ watched.Near named ∧
    watched.evaluate nameless = .ok true ∧ watched.evaluate named = .ok true ∧
    watched.Filled ∧ watched.Blind [] ∧ watched.evaluate [] = .ok false := by
  have loses : watched.Loses named nameless := by
    intro c member
    rw [watched_found member,watched_found member]
    rcases watched_leaves member with rfl | rfl | rfl
    · exact Or.inr rfl
    · exact Or.inl rfl
    · exact Or.inr rfl
  have near : watched.Near named := by
    have small : 2500 < Binary64.reach ∧ 7 < Binary64.reach := by decide +kernel
    intro c member i whole
    rw [watched_found member] at whole
    rcases watched_leaves member with rfl | rfl | rfl
    · cases whole
      exact small.1
    · cases whole
    · cases whole
      exact small.2
  have met : watched.evaluate nameless = .ok true := Checked.toOption_eq_some.mp (by decide +kernel)
  have blind : watched.Blind [] := fun c member => watched_found member []
  have cautious := tree_cautious watched
  exact ⟨loses,near,met,cautious.kept _ _ loses near met,watched_filled,blind,cautious.filled watched_filled _ blind⟩

end Node
end OrderDesk
