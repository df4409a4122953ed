import OrderDesk.Condition.Evaluate

-- A condition tree is asked in two ways: one stops at the first child that settles a group, the other visits
-- every leaf and reports it. Where the report is made, both decide alike, and the report has the leaves in
-- their order.
namespace OrderDesk

-- One entry for each leaf: what stands at its field, and what the leaf decides alone.
structure Report.Covers (snapshot : Snapshot) (leaves : List Condition) (details : List Detail) : Prop where
  listed : details.map Detail.condition = leaves
  met : ∀ d ∈ details, (Group.ofNode (.leaf d.condition)).evaluate snapshot = .ok d.met
  actual : ∀ d ∈ details, d.actual = Snapshot.resolve snapshot d.condition.field

theorem map_made {f : α → β} {x : Except ε α} {b : β} (made : x.map f = .ok b) : ∃ a, x = .ok a ∧ f a = b := by
  cases x with
  | error fault => cases made
  | ok a => exact ⟨a,rfl,Except.ok.inj made⟩

namespace Report.Covers
variable {snapshot : Snapshot}

theorem nothing : Covers snapshot [] [] := ⟨rfl,by simp,by simp⟩

theorem append {first rest : List Condition} {told others : List Detail} (before : Covers snapshot first told)
    (after : Covers snapshot rest others) : Covers snapshot (first ++ rest) (told ++ others) := by
  refine ⟨?_,?_,?_⟩
  · rw [List.map_append,before.listed,after.listed]
  · intro d member
    rcases List.mem_append.mp member with early | late
    · exact before.met d early
    · exact after.met d late
  · intro d member
    rcases List.mem_append.mp member with early | late
    · exact before.actual d early
    · exact after.actual d late

end Report.Covers

namespace Node
variable {snapshot : Snapshot}

theorem evaluateAll_single (snapshot : Snapshot) (n : Node) : evaluateAll snapshot [n] = n.evaluate snapshot := by
  rw [evaluateAll]
  cases n.evaluate snapshot with
  | error fault => rfl
  | ok met => cases met <;> rfl

theorem leaf_covers {c : Condition} {met : Bool} (found : c.met snapshot = .ok met) :
    Report.Covers snapshot [c] [⟨c,met,c.actual snapshot⟩] := by
  have alone : (Group.ofNode (.leaf c)).evaluate snapshot = .ok met := by
    rw [← found]
    exact evaluateAll_single snapshot (.leaf c)
  refine ⟨rfl,?_,?_⟩
  · intro d member
    rw [List.mem_singleton.mp member]
    exact alone
  · intro d member
    rw [List.mem_singleton.mp member]
    rfl

-- A report of children is the report of the first beside the reports of the others.
theorem reports_cons {child : Node} {rest : List Node} {results : List Report}
    (made : reports snapshot (child :: rest) = .ok results) : ∃ first others, child.report snapshot = .ok first ∧
      reports snapshot rest = .ok others ∧ results = first :: others := by
  rw [reports] at made
  split at made
  · cases made
  · rename_i first reported
    obtain ⟨others,later,same⟩ := map_made made
    exact ⟨first,others,reported,later,same.symm⟩

theorem report_group {junction : Junction} {children : List Node} {r : Report}
    (made : (group junction children).report snapshot = .ok r) : ∃ results, reports snapshot children = .ok results ∧
      r = ⟨junction.combine (results.map Report.met),results.flatMap Report.details⟩ := by
  rw [report] at made
  obtain ⟨results,reported,same⟩ := map_made made
  exact ⟨results,reported,same.symm⟩

-- By the constructors of trees, and along the lists of their children.
mutual

theorem report_covers : (n : Node) → {r : Report} → n.report snapshot = .ok r → Report.Covers snapshot n.leaves r.details
  | .leaf c,r,made => by
    rw [report] at made
    obtain ⟨met,found,same⟩ := map_made made
    rw [← same,leaves]
    exact leaf_covers found
  | .group junction children,r,made => by
    obtain ⟨results,reported,same⟩ := report_group made
    rw [same,leaves]
    exact reports_cover children reported

theorem reports_cover : (children : List Node) → {results : List Report} → reports snapshot children = .ok results →
    Report.Covers snapshot (leavesOf children) (results.flatMap Report.details)
  | [],results,made => by
    rw [reports] at made
    cases made
    exact .nothing
  | child :: rest,results,made => by
    obtain ⟨first,others,reported,later,same⟩ := reports_cons made
    rw [same,leavesOf,List.flatMap_cons]
    exact (report_covers child reported).append (reports_cover rest later)

end

-- Nothing but a leaf can fail.
mutual

theorem report_made : (n : Node) → (∀ c ∈ n.leaves, ∃ met, (Group.ofNode (.leaf c)).evaluate snapshot = .ok met) →
    ∃ r, n.report snapshot = .ok r
  | .leaf c,compared => by
    obtain ⟨met,found⟩ := compared c (by simp [leaves])
    have own : c.met snapshot = .ok met := (evaluateAll_single snapshot (.leaf c)).symm.trans found
    exact ⟨_,by rw [report,own]; rfl⟩
  | .group junction children,compared => by
    rw [leaves] at compared
    obtain ⟨results,reported⟩ := reports_made children compared
    exact ⟨_,by rw [report,reported]; rfl⟩

theorem reports_made : (children : List Node) →
    (∀ c ∈ leavesOf children, ∃ met, (Group.ofNode (.leaf c)).evaluate snapshot = .ok met) →
      ∃ results, reports snapshot children = .ok results
  | [],_ => ⟨[],rfl⟩
  | child :: rest,compared => by
    rw [leavesOf] at compared
    obtain ⟨first,here⟩ := report_made child fun c member => compared c (List.mem_append_left _ member)
    obtain ⟨others,there⟩ := reports_made rest fun c member => compared c (List.mem_append_right _ member)
    exact ⟨first :: others,by rw [reports,here,there]; rfl⟩

end

-- Stopping early does not change what a group decides.
mutual

theorem report_decides : (n : Node) → {r : Report} → n.report snapshot = .ok r → n.evaluate snapshot = .ok r.met
  | .leaf c,r,made => by
    rw [report] at made
    obtain ⟨met,found,same⟩ := map_made made
    rw [← same,evaluate]
    exact found
  | .group .all children,r,made => by
    obtain ⟨results,reported,same⟩ := report_group made
    rw [same,evaluate]
    exact reports_all children reported
  | .group .any children,r,made => by
    obtain ⟨results,reported,same⟩ := report_group made
    rw [same,evaluate]
    exact reports_any children reported

theorem reports_all : (children : List Node) → {results : List Report} → reports snapshot children = .ok results →
    evaluateAll snapshot children = .ok (Junction.all.combine (results.map Report.met))
  | [],results,made => by
    rw [reports] at made
    cases made
    rfl
  | child :: rest,results,made => by
    obtain ⟨first,others,reported,later,same⟩ := reports_cons made
    have here := report_decides child reported
    have there := reports_all rest later
    rw [same,evaluateAll,here]
    cases met : first.met with
    | true => simpa [Junction.combine,met] using there
    | false => simp [Junction.combine,met]

theorem reports_any : (children : List Node) → {results : List Report} → reports snapshot children = .ok results →
    evaluateAny snapshot children = .ok (Junction.any.combine (results.map Report.met))
  | [],results,made => by
    rw [reports] at made
    cases made
    rfl
  | child :: rest,results,made => by
    obtain ⟨first,others,reported,later,same⟩ := reports_cons made
    have here := report_decides child reported
    have there := reports_any rest later
    rw [same,evaluateAny,here]
    cases met : first.met with
    | true => simp [Junction.combine,met]
    | false => simpa [Junction.combine,met] using there

end

end Node

namespace Group

-- What a group decides and what it reports are one.
structure Reports (g : Group) (snapshot : Snapshot) : Prop where
  -- Only a leaf that cannot be compared stands in the way of a report.
  made : ∀ detailed, (∃ r, g.report snapshot detailed = .ok r) ↔
    ∀ c ∈ g.leaves, ∃ met, (ofNode (.leaf c)).evaluate snapshot = .ok met
  decided : ∀ detailed r, g.report snapshot detailed = .ok r → g.evaluate snapshot = .ok r.met
  covered : ∀ r, g.report snapshot true = .ok r → Report.Covers snapshot g.leaves r.details
  plain : ∀ r, g.report snapshot true = .ok r → g.report snapshot false = .ok ⟨r.met,[]⟩

theorem report_full {g : Group} {snapshot : Snapshot} {detailed : Bool} {r : Report}
    (reported : g.report snapshot detailed = .ok r) : ∃ full, g.node.report snapshot = .ok full ∧
      r = ⟨full.met,if detailed then full.details else []⟩ := by
  obtain ⟨full,made,same⟩ := map_made reported
  exact ⟨full,made,same.symm⟩

theorem report_agrees (g : Group) (snapshot : Snapshot) : g.Reports snapshot := by
  refine ⟨?_,?_,?_,?_⟩
  · intro detailed
    constructor
    · rintro ⟨r,reported⟩ c member
      obtain ⟨full,made,-⟩ := report_full reported
      have covers := Node.report_covers g.node made
      have listed : c ∈ full.details.map Detail.condition := covers.listed ▸ member
      obtain ⟨d,told,same⟩ := List.mem_map.mp listed
      exact ⟨d.met,same ▸ covers.met d told⟩
    · intro compared
      obtain ⟨full,made⟩ : ∃ full, g.node.report snapshot = .ok full := Node.report_made g.node compared
      exact ⟨⟨full.met,if detailed then full.details else []⟩,by rw [report,made]; rfl⟩
  · intro detailed r reported
    obtain ⟨full,made,same⟩ := report_full reported
    have decides := Node.report_decides g.node made
    rwa [same]
  · intro r reported
    obtain ⟨full,made,same⟩ := report_full reported
    rw [same]
    exact Node.report_covers g.node made
  · intro r reported
    obtain ⟨full,made,same⟩ := report_full reported
    rw [same,report,made]
    rfl

-- A price that is low enough beside a text that is no number, a field that is missing and a group of nothing.
def mixed : Group := ⟨.all,[.leaf ⟨"price",.less 3000⟩,
  .group .any [.leaf ⟨"token",.less 1⟩,.leaf ⟨"volume",.greater 0⟩,.group .all []]]⟩

def quoted : Snapshot := [("price",.int 2500),("token",.str "ETH")]

theorem mixed_agrees : mixed.Reports quoted ∧ ∃ r, mixed.report quoted true = .ok r ∧ r.met = true ∧
    mixed.evaluate quoted = .ok r.met ∧ Report.Covers quoted mixed.leaves r.details := by
  have agrees := report_agrees mixed quoted
  have met : (mixed.report quoted true).toOption.any Report.met = true := by decide +kernel
  cases reported : mixed.report quoted true with
  | error fault =>
    rw [reported] at met
    cases met
  | ok r =>
    rw [reported] at met
    exact ⟨agrees,r,rfl,met,agrees.decided true r reported,agrees.covered r reported⟩

end Group
end OrderDesk
