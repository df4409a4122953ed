import OrderDesk.Proofs.Desk.Visits

-- Statuses along a session: orders move along the allowed edges only, leave the waiting statuses once, and keep
-- the record they have when they end.
namespace OrderDesk

namespace Status

-- Neither triggered nor over.
def waiting : Status → Bool
  | created | active | paused => true
  | _ => false

-- The two ways in which a trade ends.
def concluded : Status → Bool
  | completed | failed => true
  | _ => false

theorem terminal_stays {current : Status} (ended : current.terminal = true) (target : Status) :
    current.canMove target = false := by
  cases current with
  | completed | failed | cancelled => cases target <;> rfl
  | created | active | paused | triggered => cases ended

theorem never_waits_again {current target : Status} (past : current.waiting = false)
    (edge : current.canMove target = true) : target.waiting = false := by
  cases current with
  | created => cases past
  | active => cases past
  | paused => cases past
  | triggered => cases target <;> first | rfl | cases edge
  | completed => cases edge
  | failed => cases edge
  | cancelled => cases edge

theorem fromRuntime_stays {current target : Status} (past : current.fromRuntime = true)
    (edge : current.canMove target = true) : target.fromRuntime = true := by
  cases current with
  | triggered => cases target <;> first | rfl | cases edge
  | completed => cases edge
  | failed => cases edge
  | created | active | paused | cancelled => cases past

theorem waits_before {current target : Status} (leaving : target = triggered ∨ target = cancelled)
    (edge : current.canMove target = true) : current.waiting = true ∧ target.waiting = false := by
  rcases leaving with rfl | rfl <;> cases current <;> first | exact ⟨rfl,rfl⟩ | cases edge

end Status

theorem Move.allows_edge {m : Move} {current : Status} (allowed : m.allows current = true) :
    current.canMove m.target = true := (Bool.and_eq_true_iff.mp allowed).1

theorem Tick.expired_active {o : Order} {now : Timestamp} (ended : expired o now = .ok true) : o.status = .active := by
  unfold expired at ended
  split at ended
  · assumption
  · cases ended

namespace Effect
variable {now : Timestamp} {call : Call} {response : Response} {before after : Order}

theorem edge (effect : Effect now call response (some before) (some after)) :
    after.status = before.status ∨ before.status.canMove after.status = true := by
  cases effect with
  | kept idle => exact Or.inl rfl
  | moved asked allowed =>
    rw [Move.apply_record]
    exact Or.inr (Move.allows_edge allowed)
  | flagged asked allowed =>
    rw [Move.apply_record]
    exact Or.inr (Move.allows_edge allowed)
  | executed asked takes =>
    rw [takes.record]
    split
    · rw [takes.active]
      exact Or.inr rfl
    · exact Or.inl rfl
  | observed asked sees =>
    rename_i trailing ended
    have expired := sees.ends
    rw [sees.record]
    cases ended with
    | true =>
      have active := Tick.expired_active expired
      simp only at active
      rw [active]
      exact Or.inr rfl
    | false => exact Or.inl rfl

-- A move that is answered with true has been made.
theorem made {m : Move} {before found : Option Order} (effect : Effect now call (.done (.ok true)) before found)
    (asked : call.move? = some m) :
    ∃ o, before = some o ∧ m.allows o.status = true ∧ ∀ after, found = some after → after.status = m.target := by
  cases effect with
  | kept idle => cases idle
  | moved own allowed =>
    cases Option.some.inj (own.symm.trans asked)
    refine ⟨_,rfl,allowed,?_⟩
    intro after same
    cases same
    rw [Move.apply_record]
  | flagged own allowed =>
    subst own
    cases asked
    refine ⟨_,rfl,allowed,?_⟩
    intro after same
    cases same
    rw [Move.apply_record]
  | forgotten own allowed =>
    subst own
    cases asked
    exact ⟨_,rfl,allowed,fun after same => by cases same⟩
  | executed own takes =>
    subst own
    cases asked

-- Nothing touches an order that is over.
theorem ended {found : Option Order} (effect : Effect now call response (some before) found)
    (terminal : before.status.terminal = true) : found = some before := by
  have stuck {m : Move} (allowed : m.allows before.status = true) : False := by
    have edge := Move.allows_edge allowed
    rw [Status.terminal_stays terminal] at edge
    cases edge
  cases effect with
  | kept idle => rfl
  | moved asked allowed => exact (stuck allowed).elim
  | flagged asked allowed => exact (stuck allowed).elim
  | forgotten asked allowed => exact (stuck allowed).elim
  | executed asked takes =>
    rw [takes.active] at terminal
    cases terminal
  | observed asked sees =>
    rcases sees.watched with active | triggered
    · rw [active] at terminal
      cases terminal
    · rw [triggered] at terminal
      cases terminal

end Effect

namespace Desk

-- A visit after which an order no longer waits.
def TakesOut (d : Desk) (v : Visit) (id : String) : Prop :=
  (∃ o, d.stored id = some o ∧ o.status.waiting = true) ∧
    ∀ o, (d.visit v).1.stored id = some o → o.status.waiting = false

-- The four ways to end the wait, by what the caller sees of them.
inductive Wins (d : Desk) (v : Visit) (id : String) : Prop where
  | cancelled (asked : v.call = .cancel id) (answer : (d.visit v).2 = .done (.ok true))
  | triggered {error branch : Option String} (asked : v.call = .updateStatus id "triggered" error branch)
      (answer : (d.visit v).2 = .done (.ok true))
  | lastSlice {o : Order} {s : Schedule} (asked : v.call = .recordExecution id)
      (answer : (d.visit v).2 = .done (.ok true)) (after : (d.visit v).1.stored id = some o)
      (held : o.schedule = some s) (last : Schedule.usedUp s.remaining = .ok true)
  | expired {snapshot : Snapshot} {before after : Order} (asked : v.call = .prepare id snapshot)
      (held : d.stored id = some before) (active : before.status = .active)
      (seen : (d.visit v).1.stored id = some after) (ended : after.status = .triggered)

-- An order that does not wait, and an id that no order will get.
def Closed (d : Desk) (visits : List Visit) (id : String) : Prop :=
  d.Spent visits id ∧ ∀ o, d.stored id = some o → o.status.waiting = false

section
variable {d : Desk} {v : Visit} {visits : List Visit} {id : String}

theorem visit_edge (ready : d.Ready (v :: visits)) {before after : Order} (held : d.stored id = some before)
    (seen : (d.visit v).1.stored id = some after) :
    after.status = before.status ∨ before.status.canMove after.status = true := by
  rcases visit_at ready id with same | ⟨-,effect⟩ | ⟨-,-,fresh,-⟩
  · rw [same,held] at seen
    cases seen
    exact Or.inl rfl
  · rw [held,seen] at effect
    exact effect.edge
  · rw [held] at fresh
    cases fresh

theorem visit_ended (ready : d.Ready (v :: visits)) {o : Order} (held : d.stored id = some o)
    (terminal : o.status.terminal = true) : (d.visit v).1.stored id = some o := by
  rcases visit_at ready id with same | ⟨-,effect⟩ | ⟨-,-,fresh,-⟩
  · rw [same,held]
  · rw [held] at effect
    exact effect.ended terminal
  · rw [held] at fresh
    cases fresh

theorem visit_apart (ready : d.Ready (v :: visits)) (apart : v.call.subject? ≠ some id) {o : Order}
    (held : d.stored id = some o) : (d.visit v).1.stored id = some o := by
  rcases visit_at ready id with same | ⟨named,-⟩ | ⟨-,-,fresh,-⟩
  · rw [same,held]
  · exact absurd named apart
  · rw [held] at fresh
    cases fresh

-- A call that names one order makes no other.
theorem visit_other (ready : d.Ready (v :: visits)) {named : String} (subject : v.call.subject? = some named)
    (differs : id ≠ named) : (d.visit v).1.stored id = d.stored id := by
  rcases visit_at ready id with same | ⟨own,-⟩ | ⟨creates,-⟩
  · exact same
  · rw [subject] at own
    exact absurd (Option.some.inj own).symm differs
  · rw [Call.subject_creates subject] at creates
    cases creates

theorem closed_visit (ready : d.Ready (v :: visits)) (closed : d.Closed (v :: visits) id) :
    (d.visit v).1.Closed visits id := by
  obtain ⟨spent,past⟩ := closed
  refine ⟨(visit_leaves ready).spent id spent,?_⟩
  intro after seen
  rcases visit_before ready seen with ⟨before,held,rfl | effect⟩ | ⟨creates,first,-⟩
  · exact past _ held
  · rcases effect.edge with kept | edge
    · rw [kept]
      exact past before held
    · exact Status.never_waits_again (past before held) edge
  · have more : creations (v :: visits) = creations visits + 1 := List.countP_cons_of_pos creates
    exact absurd first.symm (spent 0 (by omega))

theorem takesOut_closed (ready : d.Ready (v :: visits)) (taken : d.TakesOut v id) : (d.visit v).1.Closed visits id := by
  obtain ⟨⟨o,held,-⟩,past⟩ := taken
  exact ⟨(visit_leaves ready).spent id (stored_spent ready held),past⟩

theorem closed_run {earlier later : List Visit} (ready : d.Ready (earlier ++ later)) (closed : d.Closed (earlier ++ later) id) :
    (d.run earlier).Closed later id := by
  induction earlier generalizing d with
  | nil => exact closed
  | cons v earlier ih => exact ih (visit_leaves ready).ready (closed_visit ready closed)

theorem ended_run {earlier later : List Visit} (ready : d.Ready (earlier ++ later)) {o : Order}
    (held : d.stored id = some o) (terminal : o.status.terminal = true) : (d.run earlier).stored id = some o := by
  induction earlier generalizing d with
  | nil => exact held
  | cons v earlier ih => exact ih (visit_leaves ready).ready (visit_ended ready held terminal)

theorem moved_takesOut {m : Move} (ready : d.Ready (v :: visits)) (subject : v.call.subject? = some id)
    (asked : v.call.move? = some m) (leaving : m.target = .triggered ∨ m.target = .cancelled)
    (answer : (d.visit v).2 = .done (.ok true)) : d.TakesOut v id := by
  have effect := visit_named ready subject
  rw [answer] at effect
  obtain ⟨o,held,allowed,reached⟩ := effect.made asked
  obtain ⟨waited,past⟩ := Status.waits_before leaving (Move.allows_edge allowed)
  refine ⟨⟨o,held,waited⟩,?_⟩
  intro after seen
  rw [reached after seen]
  exact past

theorem wins_takesOut (ready : d.Ready (v :: visits)) (wins : d.Wins v id) : d.TakesOut v id := by
  cases wins with
  | cancelled asked answer =>
    exact moved_takesOut ready (by rw [asked]; rfl) (by rw [asked]; rfl) (Or.inr rfl) answer
  | triggered asked answer =>
    exact moved_takesOut ready (by rw [asked]; rfl) (by rw [asked]; rfl) (Or.inl rfl) answer
  | lastSlice asked answer after held last =>
    rename_i o s
    have effect := visit_named ready (by rw [asked]; rfl)
    rw [answer,after] at effect
    generalize before : d.stored id = found at effect
    cases effect with
    | kept idle => cases idle
    | moved own allowed =>
      rw [asked] at own
      cases own
    | flagged own allowed =>
      rw [asked] at own
      cases own
    | executed own takes =>
      rename_i earlier s later ended
      have record := takes.record
      have counted := takes.counted
      refine ⟨⟨earlier,before,by rw [takes.active]; rfl⟩,?_⟩
      intro seen same
      rw [after] at same
      cases same
      cases ended with
      | true =>
        rw [record]
        rfl
      | false =>
        rw [record] at held
        cases held
        rw [last] at counted
        cases counted
  | expired asked held active seen ended =>
    refine ⟨⟨_,held,by rw [active]; rfl⟩,?_⟩
    intro after same
    rw [seen] at same
    cases same
    rw [ended]
    rfl

end

-- What a session never breaks.
structure Lifecycle (d : Desk) (visits : List Visit) : Prop where
  -- The stored records are what callers get.
  got : ∀ earlier later, visits = earlier ++ later → ∀ id, (d.run earlier).get (.str id) = .ok ((d.run earlier).stored id)
  edges : ∀ earlier v later, visits = earlier ++ v :: later → ∀ id before after, (d.run earlier).stored id = some before →
    (d.run (earlier ++ [v])).stored id = some after →
    after.status = before.status ∨ before.status.canMove after.status = true
  -- Of two visits of one session only one takes an order out.
  once : ∀ earlier v middle w later, visits = earlier ++ v :: (middle ++ w :: later) → ∀ id,
    (d.run earlier).TakesOut v id → ¬ (d.run (earlier ++ v :: middle)).TakesOut w id
  wins : ∀ earlier v later, visits = earlier ++ v :: later → ∀ id, (d.run earlier).Wins v id → (d.run earlier).TakesOut v id
  ended : ∀ earlier middle later, visits = earlier ++ (middle ++ later) → ∀ id o, (d.run earlier).stored id = some o →
    o.status.terminal = true → (d.run (earlier ++ middle)).stored id = some o
  others : ∀ earlier v later, visits = earlier ++ v :: later → ∀ id named, v.call.subject? = some named → id ≠ named →
    (d.run (earlier ++ [v])).stored id = (d.run earlier).stored id
  -- Calls that name no order, new orders among them, change none that is stored.
  unnamed : ∀ earlier v later, visits = earlier ++ v :: later → v.call.subject? = none → ∀ id o,
    (d.run earlier).stored id = some o → (d.run (earlier ++ [v])).stored id = some o

theorem run_lifecycle {d : Desk} {visits : List Visit} (opened : d.Opened visits) : d.Lifecycle visits := by
  refine ⟨?_,?_,?_,?_,?_,?_,?_⟩
  · intro earlier later split id
    exact get_stored (opened.ready_at split) id
  · intro earlier v later split id before after held seen
    rw [run_snoc] at seen
    exact visit_edge (opened.ready_at split) held seen
  · intro earlier v middle w later split id first second
    have closed := takesOut_closed (opened.ready_at split) first
    have between := closed_run (visit_leaves (opened.ready_at split)).ready closed
    obtain ⟨⟨o,held,waits⟩,-⟩ := second
    rw [run_append] at held
    have past := between.2 o held
    rw [past] at waits
    cases waits
  · intro earlier v later split id wins
    exact wins_takesOut (opened.ready_at split) wins
  · intro earlier middle later split id o held terminal
    rw [run_append]
    exact ended_run (opened.ready_at split) held terminal
  · intro earlier v later split id named subject differs
    rw [run_snoc]
    exact visit_other (opened.ready_at split) subject differs
  · intro earlier v later split subject id o held
    rw [run_snoc]
    exact visit_apart (opened.ready_at split) (by rw [subject]; exact Option.some_ne_none id |>.symm) held

-- A stop that is cancelled, and then reported as triggered.
def raced : List Visit := [
  ⟨.origin,.create (.str "stop-loss") (.obj [("token",.str "ETH"),("triggerPrice",.int 100)])⟩,
  ⟨.origin,.cancel "order_1"⟩,
  ⟨.origin,.updateStatus "order_1" "triggered" none none⟩]

theorem raced_lifecycle : (vacant .memory).Opened raced ∧ (vacant .memory).Lifecycle raced :=
  ⟨vacant_opened fun _ _ => trivial,run_lifecycle (vacant_opened fun _ _ => trivial)⟩

end Desk
end OrderDesk
