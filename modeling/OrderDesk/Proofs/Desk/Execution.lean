import OrderDesk.Proofs.Desk.History
import OrderDesk.Proofs.Desk.Transitions
import OrderDesk.Proofs.Order.Terms

-- Executions along a session: every one that is answered with true is counted once, what is left and what is
-- done make the bound, and nothing is executed after the end.
namespace OrderDesk

-- The calls that ask for an execution of one order.
def Call.executes (id : String) : Call → Bool
  | recordExecution named => named == id
  | _ => false

namespace Call

theorem executes_subject {call : Call} {id : String} (executes : call.executes id = true) : call.subject? = some id := by
  cases call with
  | recordExecution named =>
    have same : named = id := eq_of_beq executes
    rw [subject?,same]
  | _ => cases executes

theorem executes_moves {call : Call} {m : Move} (asked : call.move? = some m) (id : String) : call.executes id = false := by
  cases call with
  | recordExecution named => cases asked
  | _ => rfl

end Call

namespace Schedule

-- The counts and the clocks of a schedule that was executed at these times.
structure Counts (s : Schedule) (terms : Terms) (first : Timestamp) (times : List Timestamp) : Prop where
  done : s.done = .int times.length
  bounded : ∀ total, terms.total? = some total → ∃ left, s.remaining = .int left ∧ 0 ≤ left ∧ left + times.length = total
  unbounded : terms.total? = none → s.remaining = .null
  untouched : times = [] → s.lastExecuted = none ∧ s.nextDue = some first
  latest : ∀ earlier now, times = earlier ++ [now] → s.lastExecuted = some now ∧
    ∃ length due, terms.interval = .ok length ∧ now.after length = .ok due ∧ s.nextDue = some due

theorem stepped_int (n change : Int) : stepped (.int n) change = .ok (.int (n + change)) := rfl

theorem usedUp_int (n : Int) : usedUp (.int n) = .ok (decide (n ≤ 0)) := congrArg Except.ok (Number.int_le n 0)

theorem exhausted_false {s : Schedule} {terms : Terms} {now : Timestamp} (remains : s.exhausted terms now = .ok false) :
    usedUp s.remaining = .ok false ∧
      ∀ last, terms.endDate? = some last → ∃ apart, now.minus last = .ok apart ∧ apart < 0 := by
  obtain ⟨ended,counted,rest⟩ := bind_eq_ok.mp remains
  cases ended with
  | true => cases rest
  | false =>
    refine ⟨counted,?_⟩
    intro last ends
    rw [if_neg Bool.false_ne_true,ends] at rest
    obtain ⟨apart,compared,made⟩ := bind_eq_ok.mp rest
    refine ⟨apart,compared,?_⟩
    have early : decide (0 ≤ apart) = false := Except.ok.inj made
    simpa using early

theorem Counts.advance {s later : Schedule} {terms : Terms} {first now : Timestamp} {times : List Timestamp}
    (counts : s.Counts terms first times) (remains : usedUp s.remaining = .ok false)
    (advanced : s.advance terms now = .ok later) : later.Counts terms first (times ++ [now]) := by
  obtain ⟨remaining,done,length,due,counted,executed,spaced,planned,rfl⟩ := advance_record advanced
  refine ⟨?_,?_,?_,?_,?_⟩
  · rw [counts.done,stepped_int] at executed
    cases executed
    simp
  · intro total bounded
    obtain ⟨left,held,-,sum⟩ := counts.bounded total bounded
    rw [held,usedUp_int] at remains
    have positive : ¬ left ≤ 0 := of_decide_eq_false (Except.ok.inj remains)
    rw [held] at counted
    cases counted
    refine ⟨left + -1,rfl,by omega,?_⟩
    simp only [List.length_append,List.length_singleton]
    omega
  · intro unbounded
    rw [counts.unbounded unbounded] at counted
    exact (Except.ok.inj counted).symm
  · intro empty
    simp at empty
  · intro earlier latest same
    obtain ⟨-,same⟩ := List.append_inj' same rfl
    cases same
    exact ⟨rfl,length,due,spaced,planned,rfl⟩

end Schedule

-- An order after executions at these times. Only an order that triggered has nothing left.
structure Order.Counted (o : Order) (times : List Timestamp) (s : Schedule) : Prop where
  held : o.schedule = some s
  counts : s.Counts o.params.terms o.createdAt times
  spent : s.remaining = .int 0 → o.status.fromRuntime = true

namespace Order
variable {o after : Order} {times : List Timestamp} {s : Schedule}

theorem New.counted {id : String} {now : Timestamp} (new : o.New id now) (scheduled : o.params.terms.scheduled = true) :
    ∃ s, o.Counted [] s := by
  have settled := new.params
  have schedule := new.schedule
  rw [← new.createdAt] at schedule
  have counted {s : Schedule} (held : o.schedule = some s) (done : s.done = .int 0)
      (remaining : s.remaining = Json.ofOption Json.int o.params.terms.total?)
      (clocks : s.lastExecuted = none ∧ s.nextDue = some o.createdAt) : o.Counted [] s := by
    refine ⟨held,⟨done,?_,?_,fun _ => clocks,?_⟩,?_⟩
    · intro total bounded
      have positive := Terms.ofFields_total settled.terms bounded
      rw [bounded] at remaining
      refine ⟨total,remaining,by omega,?_⟩
      simp
    · intro unbounded
      rw [remaining,unbounded]
      rfl
    · intro earlier now same
      simp at same
    · intro empty
      rw [remaining] at empty
      cases bounded : o.params.terms.total? with
      | none =>
        rw [bounded] at empty
        cases empty
      | some total =>
        have positive := Terms.ofFields_total settled.terms bounded
        rw [bounded] at empty
        cases empty
        omega
  cases terms : o.params.terms with
  | dca plan =>
    rw [terms] at schedule counted
    exact ⟨_,counted schedule rfl rfl ⟨rfl,rfl⟩⟩
  | twap plan =>
    rw [terms] at schedule counted
    exact ⟨_,counted schedule rfl rfl ⟨rfl,rfl⟩⟩
  | _ =>
    rw [terms] at scheduled
    cases scheduled

-- An order that is not executed keeps its counts.
theorem Counted.kept (counted : o.Counted times s) (schedule : after.schedule = o.schedule) (params : after.params = o.params)
    (createdAt : after.createdAt = o.createdAt) (edge : after.status = o.status ∨ o.status.canMove after.status = true) :
    after.Counted times s := by
  refine ⟨schedule.trans counted.held,?_,?_⟩
  · rw [params,createdAt]
    exact counted.counts
  · intro empty
    rcases edge with same | edge
    · rw [same]
      exact counted.spent empty
    · exact Status.fromRuntime_stays (counted.spent empty) edge

theorem Counted.executed {now : Timestamp} {before later : Schedule} {last : Bool} (counted : o.Counted times s)
    (takes : Execution.Takes now o after before later last) : after.Counted (times ++ [now]) later := by
  have same : before = s := Option.some.inj (takes.held.symm.trans counted.held)
  subst same
  have counts := counted.counts.advance (Schedule.exhausted_false takes.remains).1 takes.advanced
  have ends := takes.counted
  rw [takes.record]
  cases last with
  | true => exact ⟨rfl,counts,fun _ => rfl⟩
  | false =>
    refine ⟨rfl,counts,?_⟩
    intro empty
    rw [empty,Schedule.usedUp_int] at ends
    cases ends

end Order

-- The time of an execution that was asked for and made.
def Response.execution (response : Response) (v : Visit) (id : String) : List Timestamp :=
  if v.call.executes id && response.succeeded then [v.now] else []

theorem Effect.counted {v : Visit} {response : Response} {before after : Order} {id : String} {times : List Timestamp}
    {s : Schedule} (effect : Effect v.now v.call response (some before) (some after)) (subject : v.call.subject? = some id)
    (counted : before.Counted times s) : ∃ s, after.Counted (times ++ response.execution v id) s := by
  have edge := effect.edge
  have quiet {after : Order} (silent : (v.call.executes id && response.succeeded) = false) (kept : after.Counted times s) :
      ∃ s, after.Counted (times ++ response.execution v id) s := by
    refine ⟨s,?_⟩
    rw [Response.execution,silent]
    simpa using kept
  cases effect with
  | kept idle => exact quiet (by rw [idle,Bool.and_false]) counted
  | moved asked allowed =>
    refine quiet (by rw [Call.executes_moves asked id]; rfl) ?_
    exact counted.kept (by simp) (by simp) (by simp) edge
  | flagged asked allowed =>
    refine quiet (by rw [asked]; rfl) ?_
    exact counted.kept (by simp) (by simp) (by simp) edge
  | executed asked takes =>
    rename_i named before later last
    have own : v.call.executes id = true := by
      rw [asked] at subject ⊢
      cases subject
      exact beq_self_eq_true _
    rw [Response.execution,own]
    exact ⟨later,counted.executed takes⟩
  | observed asked sees =>
    refine quiet (by rw [asked]; rfl) ?_
    exact counted.kept sees.schedule sees.lasts.params sees.lasts.createdAt edge

namespace Desk

-- The times of an order's executions along a session.
def executions (id : String) (d : Desk) : List Visit → List Timestamp
  | [] => []
  | v :: visits => (d.visit v).2.execution v id ++ executions id (d.visit v).1 visits

-- An order counts its executions, and an order that is gone is not made again.
structure Tallied (d : Desk) (visits : List Visit) (id : String) (times : List Timestamp) : Prop where
  held : ∀ o, d.stored id = some o → o.params.terms.scheduled = true → ∃ s, o.Counted times s
  absent : d.stored id = none → times = [] ∨ d.Spent visits id

section
variable {d : Desk} {v : Visit} {visits : List Visit} {id : String} {times : List Timestamp}

theorem executions_history (id : String) (d : Desk) (visits : List Visit) :
    d.executions id visits = d.history (fun d v => (d.visit v).2.execution v id) visits := by
  induction visits generalizing d with
  | nil => rfl
  | cons v visits ih => rw [executions,history,ih]

theorem executions_telling (id : String) : Telling id (fun d v => (d.visit v).2.execution v id) (fun _ => True)
    (fun o times => o.params.terms.scheduled = true → ∃ s, o.Counted times s) := by
  constructor
  · exact fun new scheduled => new.counted scheduled
  · intro d v visits before after times ready _ subject stored seen counts scheduled
    have effect := visit_named ready subject
    rw [stored,seen] at effect
    rw [effect.lasts.params] at scheduled
    obtain ⟨s,counted⟩ := counts scheduled
    exact effect.counted subject counted
  · intro d v apart
    have quiet : v.call.executes id = false := by
      rw [← Bool.not_eq_true]
      exact fun executes => apart (Call.executes_subject executes)
    simp [Response.execution,quiet]
  · intro d v visits ready subject gone
    have effect := visit_named ready subject
    rw [gone] at effect
    simp [Response.execution,effect.absent_idle]

theorem run_tallied {earlier later : List Visit} (ready : d.Ready (earlier ++ later))
    (tallied : d.Tallied (earlier ++ later) id times) :
    (d.run earlier).Tallied later id (times ++ d.executions id earlier) := by
  have told := run_told (executions_telling id) ready (fun _ _ => trivial) ⟨tallied.held,tallied.absent⟩
  rw [← executions_history] at told
  exact ⟨told.held,told.absent⟩

-- An execution that is made is one of an active order with a schedule, before the end.
theorem visit_executes (ready : d.Ready (v :: visits)) (asked : v.call = .recordExecution id)
    (answer : (d.visit v).2 = .done (.ok true)) : ∃ o, d.stored id = some o ∧ o.status = .active ∧
      o.params.terms.scheduled = true ∧
      ∀ last, o.params.terms.endDate? = some last → ∃ apart, v.now.minus last = .ok apart ∧ apart < 0 := by
  have effect := visit_named ready (by rw [asked]; rfl)
  rw [answer] at effect
  generalize before : d.stored id = found at effect
  generalize after : (d.visit v).1.stored id = left at effect
  cases effect with
  | kept idle => cases idle
  | moved own allowed =>
    rw [asked] at own
    cases own
  | flagged own allowed =>
    rw [asked] at own
    cases own
  | forgotten own allowed =>
    rw [asked] at own
    cases own
  | executed own takes =>
    exact ⟨_,rfl,takes.active,takes.scheduled,(Schedule.exhausted_false takes.remains).2⟩

end

-- What a session keeps true of its schedules.
structure Accounts (d : Desk) (visits : List Visit) : Prop where
  counted : ∀ earlier later, visits = earlier ++ later → ∀ id o, (d.run earlier).stored id = some o →
    o.params.terms.scheduled = true → ∃ s, o.Counted (d.executions id earlier) s
  executed : ∀ earlier v later, visits = earlier ++ v :: later → ∀ id, v.call = .recordExecution id →
    ((d.run earlier).visit v).2 = .done (.ok true) → ∃ o, (d.run earlier).stored id = some o ∧ o.status = .active ∧
      o.params.terms.scheduled = true ∧
      ∀ last, o.params.terms.endDate? = some last → ∃ apart, v.now.minus last = .ok apart ∧ apart < 0

theorem run_accounts {d : Desk} {visits : List Visit} (opened : d.Opened visits) : d.Accounts visits := by
  have ready := opened_ready opened
  refine ⟨?_,?_⟩
  · intro earlier later split id o held scheduled
    subst split
    have tallied : d.Tallied (earlier ++ later) id [] := by
      refine ⟨fun o stored => ?_,fun _ => Or.inl rfl⟩
      rw [opened_nothing opened id] at stored
      cases stored
    exact (run_tallied ready tallied).held o held scheduled
  · intro earlier v later split id asked answer
    exact visit_executes (opened.ready_at split) asked answer

-- A sale in two slices, asked for three times.
def sliced : List Visit := [
  ⟨.origin,.create (.str "twap") (.obj [("token",.str "ETH"),("buyToken",.str "USDC"),("totalAmount",.int 90),
    ("duration",.int 60),("slices",.int 2)])⟩,
  ⟨.origin,.recordExecution "order_1"⟩,
  ⟨.epoch,.recordExecution "order_1"⟩,
  ⟨.epoch,.recordExecution "order_1"⟩]

theorem sliced_accounts : (vacant .table).Opened sliced ∧ (vacant .table).Accounts sliced := by
  have utc {t : Timestamp} (universal : t.offset = some .utc) : t.Legible := by
    intro offset same
    rw [universal] at same
    cases same
    exact Offset.utc_legible
  have opened : (vacant .table).Opened sliced := by
    refine vacant_opened ?_
    intro v member
    simp only [sliced,List.mem_cons,List.not_mem_nil,or_false] at member
    rcases member with rfl | rfl | rfl | rfl <;> exact utc (by decide +kernel)
  exact ⟨opened,run_accounts opened⟩

end Desk
end OrderDesk
