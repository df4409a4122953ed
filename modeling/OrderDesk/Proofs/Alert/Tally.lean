import OrderDesk.Proofs.Alert.Isolation

-- What the number that alerting answers with is worth. Failures are held back twice: a webhook keeps to itself
-- that its request could not be opened, and the loop over the sinks keeps what their sends raise. Only the loop
-- counts, and it counts the sends that raise nothing.
namespace OrderDesk

namespace Target

def ends (turn : Nat) (m : Message) (t : Target) : Bool := ((t.send turn m).run Trace.idle).1.isOk

def reached (turn : Nat) (m : Message) (t : Target) : Bool := ((t.send turn m).run Trace.idle).2.arrived

-- Nothing is raised, and nobody is reached.
def hushed (turn : Nat) (m : Message) (t : Target) : Bool := t.ends turn m && !t.reached turn m

inductive Reaches (turn : Nat) : Target → Prop where
  | console : Reaches turn .console
  | webhook (built : (Address.ofUrl url).problem? = none) (opened : opening turn = none) : Reaches turn (.webhook url opening)
  | custom {name : String} (taken : receiving turn = none) : Reaches turn (.custom name receiving)

inductive Hushes (turn : Nat) : Target → Prop where
  | webhook (built : (Address.ofUrl url).problem? = none) (unopened : opening turn = some f) : Hushes turn (.webhook url opening)

end Target

namespace Delivery

def raised (d : Delivery) : Except Failure Unit :=
  match d.outcome with
  | .failed f => .error f
  | _ => .ok ()

-- The entry about a failure that was raised is the loop's, and no part of the send.
def trace (d : Delivery) : Trace := ⟨d.post?.toList,d.arrived,if d.counted then d.entry?.toList else []⟩

theorem counted_raised (d : Delivery) : d.counted = d.raised.isOk := by
  cases ends : d.outcome <;> simp [counted,raised,ends] <;> rfl

end Delivery

namespace Target

-- What is noted of a send is what comes of it, with the webhook's handler in it.
theorem send_run (t : Target) (turn : Nat) (m : Message) (place : Nat) :
    let d : Delivery := ⟨place,t,m,t.outcome turn⟩
    (t.send turn m).run Trace.idle = (d.raised,d.trace) := by
  cases t with
  | console => rfl
  | webhook url opening =>
    cases built : (Address.ofUrl url).problem? <;> cases opened : opening turn <;>
      simp [send,outcome,built,opened] <;> rfl
  | custom name receiving =>
    cases taken : receiving turn <;> simp [send,outcome,taken] <;> rfl

section
variable {turn : Nat} {m : Message}

theorem ends_counted (t : Target) : t.ends turn m = Delivery.counted ⟨0,t,m,t.outcome turn⟩ := by
  rw [ends,t.send_run turn m 0,Delivery.counted_raised]

theorem reached_arrived (t : Target) : t.reached turn m = (t.outcome turn == .arrived) := by
  rw [reached,t.send_run turn m 0]
  rfl

theorem hushed_unanswered (t : Target) : t.hushed turn m = true ↔ ∃ f, t.outcome turn = .unanswered f := by
  rw [hushed,ends_counted,reached_arrived]
  cases t.outcome turn <;> simp [Delivery.counted]

theorem Reaches.outcome {t : Target} (reaches : t.Reaches turn) : t.outcome turn = .arrived := by
  cases reaches with
  | console => rfl
  | webhook built opened => simp [Target.outcome,built,opened]
  | custom taken => simp [Target.outcome,taken]

theorem Hushes.outcome {t : Target} (hushes : t.Hushes turn) : ∃ f, t.outcome turn = .unanswered f := by
  cases hushes with
  | @webhook url opening f built unopened => exact ⟨f,by simp [Target.outcome,built,unopened]⟩

-- There is nothing between a message that gets through, a failure that is hushed and one that is raised.
theorem outcome_cases (t : Target) (turn : Nat) : t.Reaches turn ∨ t.Hushes turn ∨ ∃ f, t.outcome turn = .failed f := by
  cases t with
  | console => exact .inl .console
  | webhook url opening =>
    cases built : (Address.ofUrl url).problem? with
    | some f => exact .inr (.inr ⟨f,by simp [outcome,built]⟩)
    | none =>
      cases opened : opening turn with
      | none => exact .inl (.webhook built opened)
      | some f => exact .inr (.inl (.webhook built opened))
  | custom name receiving =>
    cases taken : receiving turn with
    | none => exact .inl (.custom taken)
    | some f => exact .inr (.inr ⟨f,by simp [outcome,taken]⟩)

theorem reached_iff (t : Target) : t.reached turn m = true ↔ t.Reaches turn := by
  rw [reached_arrived,beq_iff_eq]
  constructor
  · intro arrived
    obtain reaches | hushes | ⟨f,failed⟩ := t.outcome_cases turn
    · exact reaches
    · obtain ⟨f,kept⟩ := hushes.outcome
      simp [kept] at arrived
    · simp [failed] at arrived
  · exact Reaches.outcome

theorem hushed_iff (t : Target) : t.hushed turn m = true ↔ t.Hushes turn := by
  rw [hushed_unanswered]
  constructor
  · rintro ⟨f,kept⟩
    obtain reaches | hushes | ⟨f,failed⟩ := t.outcome_cases turn
    · simp [reaches.outcome] at kept
    · exact hushes
    · simp [failed] at kept
  · exact Hushes.outcome

-- A send that raises nothing has reached someone or is hushed, and is not both.
theorem ends_once (t : Target) :
    (if t.ends turn m then 1 else 0) = (if t.reached turn m then 1 else 0) + if t.hushed turn m then 1 else 0 := by
  rw [hushed,ends_counted,reached_arrived]
  cases t.outcome turn <;> simp [Delivery.counted]

end
end Target

namespace Sink

def accepting (sinks : List Sink) (m : Message) : List Sink := sinks.filter (·.accepts m)

def reachedOf (sinks : List Sink) (turn : Nat) (m : Message) : Nat := (accepting sinks m).countP (·.target.reached turn m)

def hushedOf (sinks : List Sink) (turn : Nat) (m : Message) : Nat := (accepting sinks m).countP (·.target.hushed turn m)

theorem deliverFrom_sends (sinks : List Sink) (turn : Nat) (m : Message) (place : Nat) :
    (deliverFrom turn m place sinks).map (fun d => (d.raised,d.trace)) =
      (accepting sinks m).map fun s => (s.target.send turn m).run Trace.idle := by
  induction sinks generalizing place with
  | nil => rfl
  | cons s rest ih =>
    rw [accepting] at ih ⊢
    by_cases accepts : s.accepts m = true
    · simp only [deliverFrom,List.filter_cons,if_pos accepts,List.map_cons,s.target.send_run turn m place,ih]
    · simp only [deliverFrom,List.filter_cons,if_neg accepts,ih]

section
variable {turn : Nat} {m : Message}

theorem delivered_ends (sinks : List Sink) :
    delivered (deliver sinks turn m) = (accepting sinks m).countP (·.target.ends turn m) := by
  have sends := congrArg (List.countP (·.1.isOk)) (deliverFrom_sends sinks turn m 0)
  rw [List.countP_map,List.countP_map] at sends
  calc delivered (deliver sinks turn m)
      = (deliver sinks turn m).countP (·.raised.isOk) := List.countP_congr fun d _ => by rw [d.counted_raised]
    _ = (accepting sinks m).countP (·.target.ends turn m) := sends

theorem ends_parts (sinks : List Sink) :
    sinks.countP (·.target.ends turn m) = sinks.countP (·.target.reached turn m) + sinks.countP (·.target.hushed turn m) := by
  induction sinks with
  | nil => rfl
  | cons s rest ih =>
    have once := @Target.ends_once turn m s.target
    simp only [List.countP_cons,ih]
    omega

theorem hushedOf_zero (sinks : List Sink) :
    hushedOf sinks turn m = 0 ↔ ∀ s ∈ sinks, s.accepts m = true → ¬ s.target.Hushes turn := by
  simp only [hushedOf,List.countP_eq_zero,accepting,List.mem_filter,Target.hushed_iff,and_imp]

end

-- One round over the sinks, and the number at its end.
structure Tallied (sinks : List Sink) (turn : Nat) (m : Message) : Prop where
  -- The accepting sinks are sent the message in turn; each delivery on record is what one such send raised and left.
  sends : (deliver sinks turn m).map (fun d => (d.raised,d.trace)) =
    (accepting sinks m).map fun s => (s.target.send turn m).run Trace.idle
  -- A message gets to the console, over a request that was built and opened, and to a sink that takes it.
  reaches : ∀ t : Target, t.reached turn m = true ↔ t.Reaches turn
  -- A send without a failure of its own reaches nobody where a request was built and could not be opened;
  hushes : ∀ t : Target, t.hushed turn m = true ↔ t.Hushes turn
  -- the answer counts these sends beside those that reach someone,
  answers : ∀ told, (alert sinks turn m).run told = (.ok (reachedOf sinks turn m + hushedOf sinks turn m),told ++ deliver sinks turn m)
  -- so it is the number of sinks that were reached if and only if no accepting sink hushes a failure.
  honest : ∀ told, ((alert sinks turn m).run told).1 = .ok (reachedOf sinks turn m) ↔
    ∀ s ∈ sinks, s.accepts m = true → ¬ s.target.Hushes turn

theorem alert_tallies (sinks : List Sink) (turn : Nat) (m : Message) : Tallied sinks turn m := by
  have answers : ∀ told, (alert sinks turn m).run told =
      (.ok (reachedOf sinks turn m + hushedOf sinks turn m),told ++ deliver sinks turn m) := by
    intro told
    rw [alert_run,delivered_ends,ends_parts,reachedOf,hushedOf]
  refine ⟨deliverFrom_sends sinks turn m 0,Target.reached_iff,Target.hushed_iff,answers,?_⟩
  intro told
  rw [answers told,← hushedOf_zero]
  simp

-- A hook that is down.
def silent : Sink := ⟨.webhook "https://hooks.example.com/fail" fun _ => some ⟨"OSError","network error"⟩,none⟩

def toldSilent : Message := ⟨"stop-loss-triggered","Stop-Loss Triggered","Stop-loss executed for ETH.",.str "order_1",[]⟩

-- Nobody is reached, and the answer is one.
theorem silent_tallies : ((alert [silent] 0 toldSilent).run []).1 = .ok 1 ∧ reachedOf [silent] 0 toldSilent = 0 := by
  have tallied := alert_tallies [silent] 0 toldSilent
  have nobody : reachedOf [silent] 0 toldSilent = 0 := by decide +kernel
  have one : hushedOf [silent] 0 toldSilent = 1 := by decide +kernel
  exact ⟨by rw [tallied.answers,nobody,one],nobody⟩

end Sink
end OrderDesk
