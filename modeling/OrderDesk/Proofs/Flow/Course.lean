import OrderDesk.Proofs.Flow.Template
import OrderDesk.Proofs.Flow.Walk

-- What every walk through the flow of an order keeps to: trades follow checks that hold, a trade that is to
-- happen once is the last thing before the end, partial trades are counted one by one, and the end is never out
-- of reach.
namespace OrderDesk

namespace Draft
open Template

-- A role is reached from nodes of another role, by links of one label if any is asked for.
structure Follows (plan : Draft) (role source : Role) (label : Option Label) : Prop where
  starts : (plan.first.key,role) ∉ plan.roles
  leads : ∀ l ∈ plan.links, (l.target,role) ∈ plan.roles → (l.source,source) ∈ plan.roles ∧ ∀ asked ∈ label, l.label = asked

-- One outcome, given again and again, leads from any node to the end.
structure Ends (plan : Draft) (outcome : Option Bool) : Prop where
  comes : ∀ entry ∈ plan.roles, comesTo plan.links outcome terminal 6 entry.1 = true
  final : (terminal,Role.terminal) ∈ plan.roles

-- What comes after the only trade.
def closing (key : String) : Bool := key == notify || key == terminal

-- One trade, with nothing but the end behind it.
structure Closes (plan : Draft) : Prop where
  trades : ∀ entry ∈ plan.roles, entry.2 = .executeTrade → entry.1 = execute
  trader : (execute,Role.executeTrade) ∈ plan.roles
  ends : ∀ entry ∈ plan.roles, entry.2 = .terminal → closing entry.1 = true
  idle : ∀ entry ∈ plan.roles, closing entry.1 = true → entry.2 = .notify ∨ entry.2 = .terminal
  starts : closing plan.first.key = false
  opens : ∀ l ∈ plan.links, closing l.source = false → closing l.target = true → l.source = execute
  follows : ∀ l ∈ plan.links, l.source = execute → closing l.target = true
  closed : ∀ l ∈ plan.links, closing l.source = true → closing l.target = true

-- Where a loop is as long as it is not known whether anything remains.
def resting (key : String) : Bool := key == notify || key == waiting || key == remainingCheck || key == terminal

-- Partial trades in a loop that counts each of them, and goes on only while some remain.
structure Counts (plan : Draft) : Prop where
  trades : ∀ entry ∈ plan.roles, entry.2 = .executeTrade → entry.1 = partialTrade
  trader : (partialTrade,Role.executeTrade) ∈ plan.roles
  updates : ∀ entry ∈ plan.roles, entry.2 = .updateState → entry.1 = update
  updater : (update,Role.updateState) ∈ plan.roles
  waits : ∀ entry ∈ plan.roles, entry.2 = .waitTick → entry.1 = waiting
  ends : ∀ entry ∈ plan.roles, entry.2 = .terminal → entry.1 = terminal
  starts : plan.first.key ≠ terminal
  counted : ∀ l ∈ plan.links, l.source = partialTrade → l.target = update
  told : ∀ l ∈ plan.links, l.source = update → l.target = notify
  single : ∀ l ∈ plan.links, l.target = update → l.source = partialTrade
  remains : ∀ l ∈ plan.links, resting l.source = true → resting l.target = false →
    l.source = remainingCheck ∧ l.label = .onTrue
  exits : ∀ l ∈ plan.links, l.target = terminal → l.source = remainingCheck ∧ l.label = .onFalse

-- The drafts that trade once, and the drafts that trade until nothing remains.
structure Once (plan : Draft) : Prop where
  checked : plan.Follows .executeTrade .checkCondition (some .onTrue)
  closes : plan.Closes
  ends : plan.Ends (some true)

structure Repeats (plan : Draft) : Prop where
  checked : plan.Follows .executeTrade .checkCondition (some .onTrue)
  counts : plan.Counts
  ends : plan.Ends (some false)

end Draft

namespace Template
open Draft
variable (d : FlowDefaults) (p : Params)

theorem singleShot_once (conditions : Group) (trade : Fields) (template name description : String) :
    (singleShot d p conditions trade template name description).Once := by
  constructor <;> constructor <;> simp only [roles,singleShot,nodes,List.map,node,notice,done,wait] <;> decide +kernel

theorem trailing_once (t : TrailingTerms) (name description : String) : (trailing d p t name description).Once := by
  constructor <;> constructor <;> simp only [roles,trailing,nodes,List.map,node,notice,done,wait] <;> decide +kernel

theorem trailing_refreshed (t : TrailingTerms) (name description : String) :
    (trailing d p t name description).Follows .checkCondition .updateState none := by
  constructor <;> simp only [roles,trailing,nodes,List.map,node,notice,done,wait] <;> decide +kernel

section
variable (lower upper : Leg) (receive : Option String) (name description : String)

theorem protection_once : (protection d p lower upper receive name description).Once := by
  constructor <;> constructor <;> simp only [roles,protection,branchNode,nodes,List.map,node,notice,done,wait] <;> decide +kernel

theorem protection_upper : ∀ l ∈ (protection d p lower upper receive name description).links, l.target = upperCheck →
    l.source = lowerCheck ∧ l.label = .onFalse := by
  simp only [protection]
  decide +kernel

end

theorem scheduled_repeats (extra : Option Group) (interval : Number) (trade : Fields) (template name description : String) :
    (scheduled d p extra interval trade template name description).Repeats := by
  constructor <;> constructor <;> simp only [roles,scheduled,nodes,List.map,node,notice,done,wait] <;> decide +kernel

end Template

namespace Flow

-- A walk from the entry.
def Walks (f : Flow) (passed : List Pass) (here : String) : Prop := Walk f.next? f.entry passed here

-- A trade of the flow is to happen once.
def Guarded (f : Flow) : Prop :=
  ∃ node ∈ f.nodes, node.role = .executeTrade ∧ node.data.get? "guard" = some (.str "once")

-- Nothing is traded, checked or waited for after the trade, and the end comes after it only.
structure TradesOnce (f : Flow) : Prop where
  after : ∀ earlier trade later here, f.Walks (earlier ++ trade :: later) here → f.Plays trade.node .executeTrade →
    ∀ id ∈ later.map Pass.node ++ [here],
      ¬ f.Plays id .executeTrade ∧ ¬ f.Plays id .checkCondition ∧ ¬ f.Plays id .waitTick
  before : ∀ passed here, f.Walks passed here → f.Plays here .terminal → ∃ trade ∈ passed, f.Plays trade.node .executeTrade

-- Between two trades the state is updated once, and something was found to remain; so it was between a wait and a trade.
structure TradesLeft (f : Flow) (remaining : String) : Prop where
  counted : ∀ earlier trade between here, f.Walks (earlier ++ trade :: between) here → f.Plays trade.node .executeTrade →
    f.Plays here .executeTrade → (∀ pass ∈ between, ¬ f.Plays pass.node .executeTrade) →
    (∃ front update back, between = front ++ update :: back ∧ f.Plays update.node .updateState ∧
      ∀ pass ∈ front ++ back, ¬ f.Plays pass.node .updateState) ∧ ⟨remaining,some true⟩ ∈ between
  waited : ∀ earlier wait between here, f.Walks (earlier ++ wait :: between) here → f.Plays wait.node .waitTick →
    f.Plays here .executeTrade → ⟨remaining,some true⟩ ∈ between
  ended : ∀ passed here, f.Walks passed here → f.Plays here .terminal → ∃ earlier, passed = earlier ++ [⟨remaining,some false⟩]

structure Course (f : Flow) (owner : Json) (kind : Kind) : Prop where
  checked : ∀ passed here, f.Walks passed here → f.Plays here .executeTrade →
    ∃ earlier check, passed = earlier ++ [⟨check,some true⟩] ∧ f.Plays check .checkCondition
  guarded : f.Guarded ↔ kind ≠ .dca ∧ kind ≠ .twap
  once : f.Guarded → f.TradesOnce
  left : kind = .dca ∨ kind = .twap → f.TradesLeft (Draft.nodeId owner "check-remaining")
  refreshed : kind = .trailingStop → ∀ passed here, f.Walks passed here → f.Plays here .checkCondition →
    ∃ earlier pass, passed = earlier ++ [pass] ∧ f.Plays pass.node .updateState
  ordered : kind = .dualProtection → ∀ passed, f.Walks passed (Draft.nodeId owner "check-take-profit") →
    ∃ earlier, passed = earlier ++ [⟨Draft.nodeId owner "check-stop-loss",some false⟩]
  ends : ∀ node ∈ f.nodes, ∃ passed last, Walk f.next? node.id passed last ∧ f.Plays last .terminal

section
open Draft Template
variable {d : FlowDefaults} {owner : Json} {kind : Kind} {now : Timestamp} {plan : Draft} {passed : List Pass} {here : String}

theorem ofDraft_walks : (ofDraft d owner kind now plan).Walks passed here ↔
    Walk (ofDraft d owner kind now plan).next? (nodeId owner plan.first.key) passed here := by
  rw [Walks,ofDraft_entry]

theorem ofDraft_follows {role source : Role} {label : Option Label} (follows : plan.Follows role source label)
    (walk : (ofDraft d owner kind now plan).Walks passed here) (plays : (ofDraft d owner kind now plan).Plays here role) :
    ∃ earlier pass l, passed = earlier ++ [pass] ∧ (ofDraft d owner kind now plan).Plays pass.node source ∧
      Taken plan.links l pass.outcome ∧ ∀ asked ∈ label, l.label = asked := by
  rw [ofDraft_walks] at walk
  obtain ⟨key,rfl,listed⟩ := ofDraft_plays.mp plays
  have moves : key ≠ plan.first.key := by
    rintro rfl
    exact follows.starts listed
  obtain ⟨earlier,pass,l,rfl,taken,node,rfl⟩ := ofDraft_arrives walk moves
  obtain ⟨source,labelled⟩ := follows.leads l taken.listed listed
  exact ⟨earlier,pass,l,rfl,ofDraft_plays.mpr ⟨l.source,node,source⟩,taken,labelled⟩

theorem ofDraft_checked (follows : plan.Follows .executeTrade .checkCondition (some .onTrue))
    (walk : (ofDraft d owner kind now plan).Walks passed here)
    (plays : (ofDraft d owner kind now plan).Plays here .executeTrade) :
    ∃ earlier check, passed = earlier ++ [⟨check,some true⟩] ∧ (ofDraft d owner kind now plan).Plays check .checkCondition := by
  obtain ⟨earlier,⟨check,outcome⟩,l,rfl,source,taken,labelled⟩ := ofDraft_follows follows walk plays
  have holds : outcome = some true := taken.outcome (labelled _ rfl)
  subst holds
  exact ⟨earlier,check,rfl,source⟩

theorem ofDraft_ends {outcome : Option Bool} (ends : plan.Ends outcome) : ∀ node ∈ (ofDraft d owner kind now plan).nodes,
    ∃ passed last, Walk (ofDraft d owner kind now plan).next? node.id passed last ∧
      (ofDraft d owner kind now plan).Plays last .terminal := by
  intro node member
  obtain ⟨drafted,listed,rfl⟩ := List.mem_map.mp member
  have entry : (drafted.key,drafted.role) ∈ plan.roles := List.mem_map.mpr ⟨drafted,listed,rfl⟩
  obtain ⟨passed,walk⟩ := ofDraft_comes 6 (ends.comes _ entry)
  exact ⟨passed,_,walk,ofDraft_plays.mpr ⟨terminal,rfl,ends.final⟩⟩

theorem ofDraft_once (closes : plan.Closes) : (ofDraft d owner kind now plan).TradesOnce := by
  constructor
  · intro earlier trade later here walk trades id visited
    obtain ⟨key,node,listed⟩ := ofDraft_plays.mp trades
    have own : key = execute := closes.trades _ listed rfl
    -- What is visited later is visited behind the trade, where only the end is.
    have behind (between : List Pass) {id : String} (onward : (ofDraft d owner kind now plan).Walks (earlier ++ trade :: between) id) :
        ∃ key, id = nodeId owner key ∧ closing key = true := by
      rw [ofDraft_walks] at onward
      obtain ⟨middle,front,back⟩ := onward.split
      rw [← back.first_step.1,node] at back
      obtain ⟨-,l,taken,source,rest⟩ := ofDraft_first_step back
      obtain ⟨last,rfl⟩ := ofDraft_stays rest
      exact ⟨last,rfl,ofDraft_confined closes.closed rest (closes.follows l taken.listed (source.trans own))⟩
    have past : ∃ key, id = nodeId owner key ∧ closing key = true := by
      rcases List.mem_append.mp visited with passed | last
      · obtain ⟨pass,member,rfl⟩ := List.mem_map.mp passed
        obtain ⟨front,back,rfl⟩ := List.append_of_mem member
        apply behind front
        rw [← List.cons_append,← List.append_assoc] at walk
        exact walk.shorter
      · rw [List.mem_singleton.mp last]
        exact behind later walk
    obtain ⟨key,rfl,past⟩ := past
    have idle {role : Role} (works : role ≠ .notify ∧ role ≠ .terminal) : ¬ (ofDraft d owner kind now plan).Plays (nodeId owner key) role := by
      intro plays
      obtain ⟨same,equal,listed⟩ := ofDraft_plays.mp plays
      rw [← nodeId_injective equal] at listed
      rcases closes.idle _ listed past with told | ended
      · exact works.1 told
      · exact works.2 ended
    exact ⟨idle (by simp),idle (by simp),idle (by simp)⟩
  · intro passed here walk plays
    rw [ofDraft_walks] at walk
    obtain ⟨key,rfl,listed⟩ := ofDraft_plays.mp plays
    have starts : (!closing plan.first.key) = true := by rw [closes.starts]; rfl
    have past : (!closing key) = false := by rw [closes.ends _ listed rfl]; rfl
    obtain ⟨pass,member,l,taken,node,before,after⟩ := ofDraft_crosses (fun key => !closing key) walk starts past
    simp only [Bool.not_eq_true',Bool.not_eq_false'] at before after
    have trades : l.source = execute := closes.opens l taken.listed before after
    exact ⟨pass,member,ofDraft_plays.mpr ⟨l.source,node,trades ▸ closes.trader⟩⟩

-- On the way from where nothing is known to remain to a trade, something is found to remain.
theorem ofDraft_remains (counts : plan.Counts) {key : String} (rests : resting key = true)
    (walk : Walk (ofDraft d owner kind now plan).next? (nodeId owner key) passed (nodeId owner partialTrade)) :
    ⟨nodeId owner remainingCheck,some true⟩ ∈ passed := by
  obtain ⟨⟨id,outcome⟩,member,l,taken,node,inside,outside⟩ := ofDraft_crosses resting walk rests rfl
  obtain ⟨source,label⟩ := counts.remains l taken.listed inside outside
  have holds : outcome = some true := taken.outcome label
  simp only [source] at node
  rwa [node,holds] at member

theorem ofDraft_trades (counts : plan.Counts) {id : String} (plays : (ofDraft d owner kind now plan).Plays id .executeTrade) :
    id = nodeId owner partialTrade := by
  obtain ⟨key,rfl,listed⟩ := ofDraft_plays.mp plays
  have own : key = partialTrade := counts.trades _ listed rfl
  rw [own]

-- After the notice there is no update without another trade.
theorem ofDraft_updates (counts : plan.Counts) (walk : Walk (ofDraft d owner kind now plan).next? (nodeId owner notify) passed last)
    (none : ∀ pass ∈ passed, ¬ (ofDraft d owner kind now plan).Plays pass.node .executeTrade) :
    ∀ pass ∈ passed, ¬ (ofDraft d owner kind now plan).Plays pass.node .updateState := by
  intro pass member updates
  obtain ⟨key,same,listed⟩ := ofDraft_plays.mp updates
  have own : key = update := counts.updates _ listed rfl
  rw [own] at same
  obtain ⟨front,later,rfl⟩ := List.append_of_mem member
  have again := walk.shorter
  rw [same] at again
  obtain ⟨other,before,l,taken,node,-,back⟩ := ofDraft_crosses (fun key => key != update) again rfl (by simp)
  have single : l.source = partialTrade := counts.single l taken.listed (by simpa using back)
  rw [single] at node
  exact none other (List.mem_append_left _ before) (ofDraft_plays.mpr ⟨_,node,counts.trader⟩)

theorem ofDraft_left (counts : plan.Counts) : (ofDraft d owner kind now plan).TradesLeft (nodeId owner remainingCheck) := by
  constructor
  · intro earlier first between here walk starts trades none
    rw [ofDraft_walks] at walk
    obtain ⟨middle,-,back⟩ := walk.split
    rw [← back.first_step.1,ofDraft_trades counts starts,ofDraft_trades counts trades] at back
    -- The trade leads to the update, and the update to the notice.
    obtain ⟨-,l,taken,source,onward⟩ := ofDraft_first_step back
    rw [counts.counted l taken.listed source] at onward
    cases between with
    | nil => exact absurd (nodeId_injective onward.nothing) (by decide)
    | cons second rest =>
      obtain ⟨node,l,taken,source,onward⟩ := ofDraft_first_step onward
      rw [counts.told l taken.listed source] at onward
      refine ⟨⟨[],second,rest,rfl,ofDraft_plays.mpr ⟨update,node,counts.updater⟩,?_⟩,?_⟩
      · exact ofDraft_updates counts onward fun pass member => none pass (List.mem_cons_of_mem second member)
      · exact List.mem_cons_of_mem second (ofDraft_remains counts rfl onward)
  · intro earlier wait between here walk waits trades
    rw [ofDraft_walks] at walk
    obtain ⟨key,node,listed⟩ := ofDraft_plays.mp waits
    have own : key = waiting := counts.waits _ listed rfl
    obtain ⟨middle,-,back⟩ := walk.split
    rw [← back.first_step.1,node,own,ofDraft_trades counts trades] at back
    rcases List.mem_cons.mp (ofDraft_remains counts rfl back) with same | later
    · rw [← same,own] at node
      exact absurd (nodeId_injective node) (by decide)
    · exact later
  · intro passed here walk plays
    rw [ofDraft_walks] at walk
    obtain ⟨key,rfl,listed⟩ := ofDraft_plays.mp plays
    have ended : key = terminal := counts.ends _ listed rfl
    obtain ⟨earlier,⟨id,outcome⟩,l,rfl,taken,node,target⟩ := ofDraft_arrives walk (ended ▸ counts.starts.symm)
    obtain ⟨source,label⟩ := counts.exits l taken.listed (target.trans ended)
    have fails : outcome = some false := taken.outcome label
    simp only [source] at node
    exact ⟨earlier,by rw [node,fails]⟩

theorem ofDraft_guarded {guard : String} {trade : Fields} (given : trade.get? "guard" = some (.str guard))
    (only : ∀ node ∈ plan.nodes, node.role = .executeTrade → node.data.get? "guard" = trade.get? "guard")
    (trades : ∃ node ∈ plan.nodes, node.role = .executeTrade) : (ofDraft d owner kind now plan).Guarded ↔ guard = "once" := by
  constructor
  · rintro ⟨node,member,role,held⟩
    obtain ⟨drafted,listed,rfl⟩ := List.mem_map.mp member
    have own : drafted.data.get? "guard" = some (.str guard) := (only drafted listed role).trans given
    have same := own.symm.trans held
    simpa using same
  · rintro rfl
    obtain ⟨drafted,listed,role⟩ := trades
    exact ⟨drafted.finish owner,List.mem_map_of_mem listed,role,(only drafted listed role).trans given⟩

theorem ofDraft_singleShot {p : Params} {conditions : Group} {trade : Fields} {template name description : String}
    (kinds : kind ≠ .dca ∧ kind ≠ .twap ∧ kind ≠ .trailingStop ∧ kind ≠ .dualProtection)
    (guard : trade.get? "guard" = some (.str "once")) :
    (ofDraft d owner kind now (singleShot d p conditions trade template name description)).Course owner kind := by
  obtain ⟨notRecurring,notSliced,notTrailing,notProtection⟩ := kinds
  have guarded : (ofDraft d owner kind now (singleShot d p conditions trade template name description)).Guarded ↔ "once" = "once" :=
    ofDraft_guarded guard (by simp [singleShot,Draft.nodes,node,notice,done,wait]) ⟨_,List.mem_cons_of_mem _ List.mem_cons_self,rfl⟩
  constructor
  · intro passed here walk plays
    exact ofDraft_checked (singleShot_once ..).checked walk plays
  · exact iff_of_true (guarded.mpr rfl) ⟨notRecurring,notSliced⟩
  · exact fun _ => ofDraft_once (singleShot_once ..).closes
  · rintro (recurring | sliced)
    · exact absurd recurring notRecurring
    · exact absurd sliced notSliced
  · exact fun trailing => absurd trailing notTrailing
  · exact fun protection => absurd protection notProtection
  · exact ofDraft_ends (singleShot_once ..).ends

theorem ofDraft_trailing {p : Params} {t : TrailingTerms} {name description : String} :
    (ofDraft d owner .trailingStop now (trailing d p t name description)).Course owner .trailingStop := by
  have guard : (saleData d p t.sale).get? "guard" = some (.str "once") := rfl
  have guarded : (ofDraft d owner .trailingStop now (trailing d p t name description)).Guarded ↔ "once" = "once" :=
    ofDraft_guarded guard (by simp [trailing,Draft.nodes,node,notice,done,wait]) ⟨_,List.mem_cons_of_mem _ (List.mem_cons_of_mem _ List.mem_cons_self),rfl⟩
  constructor
  · intro passed here walk plays
    exact ofDraft_checked (trailing_once ..).checked walk plays
  · exact iff_of_true (guarded.mpr rfl) ⟨by decide,by decide⟩
  · exact fun _ => ofDraft_once (trailing_once ..).closes
  · rintro (recurring | sliced)
    · cases recurring
    · cases sliced
  · intro _ passed here walk plays
    obtain ⟨earlier,pass,l,split,source,-,-⟩ := ofDraft_follows (trailing_refreshed ..) walk plays
    exact ⟨earlier,pass,split,source⟩
  · intro protection
    cases protection
  · exact ofDraft_ends (trailing_once ..).ends

theorem ofDraft_protection {p : Params} {lower upper : Leg} {receive : Option String} {name description : String} :
    (ofDraft d owner .dualProtection now (protection d p lower upper receive name description)).Course owner .dualProtection := by
  have guard : Fields.get? "guard" (("sellPercentByBranch",.obj [("stop-loss",.float lower.percent),("take-profit",.float upper.percent)]) ::
    Fields.erase "sellPercent" (saleData d p ⟨lower.percent,receive⟩)) = some (.str "once") := rfl
  have guarded : (ofDraft d owner .dualProtection now (protection d p lower upper receive name description)).Guarded ↔ "once" = "once" :=
    ofDraft_guarded guard (by simp [protection,branchNode,Draft.nodes,node,notice,done,wait])
    ⟨_,List.mem_cons_of_mem _ (List.mem_cons_of_mem _ List.mem_cons_self),rfl⟩
  constructor
  · intro passed here walk plays
    exact ofDraft_checked (protection_once ..).checked walk plays
  · exact iff_of_true (guarded.mpr rfl) ⟨by decide,by decide⟩
  · exact fun _ => ofDraft_once (protection_once ..).closes
  · rintro (recurring | sliced)
    · cases recurring
    · cases sliced
  · intro trailing
    cases trailing
  · intro _ passed walk
    rw [ofDraft_walks] at walk
    obtain ⟨earlier,⟨id,outcome⟩,l,rfl,taken,node,target⟩ := ofDraft_arrives walk (show upperCheck ≠ lowerCheck by decide)
    obtain ⟨source,label⟩ := protection_upper d p lower upper receive name description l taken.listed target
    have fails : outcome = some false := taken.outcome label
    simp only [source] at node
    exact ⟨earlier,by rw [node,fails]; rfl⟩
  · exact ofDraft_ends (protection_once ..).ends

theorem ofDraft_scheduled {p : Params} {extra : Option Group} {interval : Number} {trade : Fields}
    {template name description : String} (kinds : kind = .dca ∨ kind = .twap)
    (guard : trade.get? "guard" = some (.str "per-slice")) :
    (ofDraft d owner kind now (scheduled d p extra interval trade template name description)).Course owner kind := by
  have guarded : (ofDraft d owner kind now (scheduled d p extra interval trade template name description)).Guarded ↔
      "per-slice" = "once" :=
    ofDraft_guarded guard (by simp [scheduled,Draft.nodes,node,notice,done,wait]) ⟨_,List.mem_cons_of_mem _ List.mem_cons_self,rfl⟩
  have free : ¬ (ofDraft d owner kind now (scheduled d p extra interval trade template name description)).Guarded :=
    fun once => absurd (guarded.mp once) (by decide)
  constructor
  · intro passed here walk plays
    exact ofDraft_checked (scheduled_repeats ..).checked walk plays
  · refine iff_of_false free ?_
    rcases kinds with rfl | rfl <;> simp
  · exact fun once => absurd once free
  · exact fun _ => ofDraft_left (scheduled_repeats ..).counts
  · rintro rfl
    rcases kinds with other | other <;> cases other
  · rintro rfl
    rcases kinds with other | other <;> cases other
  · exact ofDraft_ends (scheduled_repeats ..).ends

end

-- Every flow that is made keeps to its course, whatever it is made of.
theorem generate_course {d : FlowDefaults} {owner : Json} {kind : Kind} {p : Params} {now : Timestamp} {f : Flow}
    (made : generate d owner kind p now = .ok f) : f.Course owner kind := by
  obtain ⟨q,plan,rfl,drafted,rfl⟩ := generate_drafted made
  cases Template.draft_shape drafted with
  | once kinds guard => exact ofDraft_singleShot kinds guard
  | trails own =>
    rw [Params.kind,own]
    exact ofDraft_trailing
  | protects own =>
    rw [Params.kind,own]
    exact ofDraft_protection
  | repeats kinds guard => exact ofDraft_scheduled kinds guard

-- Four purchases, one a day.
def daily : Params := ⟨"ETH",none,[],.dca ⟨⟨"USDC",25⟩,.daily,none,some 4,none⟩⟩

theorem daily_course : ∃ f, Flow.generate .standard (.str "order_1") .dca daily .origin = .ok f ∧ f.Course (.str "order_1") .dca := by
  have passes : (daily.recheck .dca).isOk = true := by decide +kernel
  cases checked : daily.recheck .dca with
  | error fault =>
    rw [checked] at passes
    cases passes
  | ok p =>
    have own := Params.recheck_kind checked
    obtain ⟨plan,terms⟩ : ∃ plan, p.terms = .dca plan := by
      unfold Params.kind at own
      cases terms : p.terms <;> rw [terms] at own <;> cases own
      exact ⟨_,rfl⟩
    obtain ⟨draft,drafted⟩ : ∃ draft, Template.draft .standard p = .ok draft := by
      rw [Template.draft,terms]
      exact ⟨_,rfl⟩
    have made : generate .standard (.str "order_1") .dca daily .origin = .ok _ := generate_made checked drafted
    exact ⟨_,made,generate_course made⟩

end Flow
end OrderDesk
