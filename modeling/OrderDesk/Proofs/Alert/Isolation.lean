import OrderDesk.Alert.Sink

-- Alerting, sink by sink. A sink that fails raises out of its own send alone: the loop over the sinks always
-- answers, and what one sink is sent depends on nothing but its own channels and the messages.
namespace OrderDesk

namespace Sink

-- What is sent of each message.
def tellings (sinks : List Sink) : Nat → List Message → List (List Delivery)
  | _,[] => []
  | turn,m :: rest => deliver sinks turn m :: tellings sinks (turn + 1) rest

def sentTo (place : Nat) (deliveries : List Delivery) : List Message :=
  (deliveries.filter fun d => d.place == place).map Delivery.message

section
variable {turn place : Nat} {m : Message}

-- A program goes on from what has been sent, once its first part has answered.
theorem bind_run {first : Sending α} {next : α → Sending β} {a : α} {told after : List Delivery}
    (answers : first.run told = (.ok a,after)) : (first >>= next).run told = (next a).run after := by
  simp only [ExceptT.run_bind]
  show (first.run >>= _ : StateM _ _) told = _
  simp only [bind,StateT.bind,answers]

-- A failed send ends with its failure, and only the handler beside it sees that.
theorem counted_run (s : Sink) (count : Nat) (told : List Delivery) :
    let d : Delivery := ⟨place,s.target,m,s.target.outcome turn⟩
    (tryCatch (do s.send turn m place; pure (count + 1)) fun _ => pure count : Sending Nat).run told =
      (.ok (count + delivered [d]),told ++ [d]) := by
  cases ends : s.target.outcome turn <;> simp [send,ends,delivered,Delivery.counted] <;> rfl

theorem delivered_cons (d : Delivery) (rest : List Delivery) : delivered (d :: rest) = delivered [d] + delivered rest := by
  rw [← List.singleton_append,delivered,List.countP_append]
  rfl

theorem alertFrom_run (sinks : List Sink) (place count : Nat) (told : List Delivery) :
    (alertFrom turn m place sinks count).run told =
      (.ok (count + delivered (deliverFrom turn m place sinks)),told ++ deliverFrom turn m place sinks) := by
  induction sinks generalizing place count told with
  | nil => simp [alertFrom,deliverFrom,delivered]; rfl
  | cons s rest ih =>
    by_cases accepts : s.accepts m = true
    · rw [alertFrom,if_pos accepts,bind_run (counted_run s count told),ih,deliverFrom,if_pos accepts]
      simp only [delivered_cons _ (deliverFrom turn m (place + 1) rest),Nat.add_assoc,List.append_assoc,List.singleton_append]
    · rw [alertFrom,if_neg accepts,ih,deliverFrom,if_neg accepts]

theorem alert_run (sinks : List Sink) (told : List Delivery) :
    (alert sinks turn m).run told = (.ok (delivered (deliver sinks turn m)),told ++ deliver sinks turn m) := by
  rw [alert,alertFrom_run,Nat.zero_add,deliver]

theorem alertAll_run (sinks : List Sink) (ms : List Message) (turn : Nat) (told : List Delivery) :
    (alertAll sinks turn ms).run told =
      (.ok ((tellings sinks turn ms).map delivered),told ++ (tellings sinks turn ms).flatten) := by
  induction ms generalizing turn told with
  | nil => simp [alertAll,tellings]; rfl
  | cons m rest ih =>
    rw [alertAll,bind_run (alert_run sinks told),bind_run (ih (turn + 1) (told ++ deliver sinks turn m))]
    simp [tellings]
    rfl

-- The deliveries of a message, sinks apart.

theorem deliverFrom_places {sinks : List Sink} {d : Delivery} (sent : d ∈ deliverFrom turn m place sinks) :
    place ≤ d.place ∧ d.place < place + sinks.length := by
  induction sinks generalizing place with
  | nil => simp [deliverFrom] at sent
  | cons s rest ih =>
    by_cases accepts : s.accepts m = true
    · simp only [deliverFrom,if_pos accepts,List.mem_cons] at sent
      cases sent with
      | inl first => simp [first]
      | inr own =>
        have bounds := ih own
        simp only [List.length_cons]
        omega
    · simp only [deliverFrom,if_neg accepts] at sent
      have bounds := ih sent
      simp only [List.length_cons]
      omega

theorem deliverFrom_append (first last : List Sink) :
    deliverFrom turn m place (first ++ last) =
      deliverFrom turn m place first ++ deliverFrom turn m (place + first.length) last := by
  induction first generalizing place with
  | nil => simp [deliverFrom]
  | cons s rest ih =>
    have next : place + 1 + rest.length = place + (rest.length + 1) := by omega
    by_cases accepts : s.accepts m = true <;> simp [deliverFrom,accepts,ih,next]

theorem sentTo_append (place : Nat) (first last : List Delivery) :
    sentTo place (first ++ last) = sentTo place first ++ sentTo place last := by
  simp [sentTo]

theorem sentTo_elsewhere {deliveries : List Delivery} (elsewhere : ∀ d ∈ deliveries, d.place ≠ place) :
    sentTo place deliveries = [] := by
  simpa [sentTo] using elsewhere

-- Of one message a sink is sent one copy or none, wherever it stands.
theorem deliver_sent (earlier later : List Sink) (s : Sink) (turn : Nat) (m : Message) :
    sentTo earlier.length (deliver (earlier ++ s :: later) turn m) = if s.accepts m then [m] else [] := by
  have before : sentTo earlier.length (deliverFrom turn m 0 earlier) = [] := by
    apply sentTo_elsewhere
    intro d sent
    have bounds := deliverFrom_places sent
    omega
  have after : sentTo earlier.length (deliverFrom turn m (earlier.length + 1) later) = [] := by
    apply sentTo_elsewhere
    intro d sent
    have bounds := deliverFrom_places sent
    omega
  rw [deliver,deliverFrom_append,sentTo_append,before,List.nil_append,Nat.zero_add,deliverFrom]
  by_cases accepts : s.accepts m = true
  · rw [if_pos accepts,if_pos accepts,← List.singleton_append,sentTo_append,after]
    simp [sentTo]
  · rw [if_neg accepts,if_neg accepts,after]

theorem tellings_sent (earlier later : List Sink) (s : Sink) (turn : Nat) (ms : List Message) :
    (tellings (earlier ++ s :: later) turn ms).map (sentTo earlier.length) =
      ms.map fun m => if s.accepts m then [m] else [] := by
  induction ms generalizing turn with
  | nil => rfl
  | cons m rest ih => simp [tellings,deliver_sent,ih]

theorem sentTo_flatten (place : Nat) (tellings : List (List Delivery)) :
    sentTo place tellings.flatten = (tellings.map (sentTo place)).flatten := by
  induction tellings with
  | nil => rfl
  | cons first rest ih => simp [sentTo_append,ih]

theorem singles_flatten (ms : List Message) (wanted : Message → Bool) :
    (ms.map fun m => if wanted m then [m] else []).flatten = ms.filter wanted := by
  induction ms with
  | nil => rfl
  | cons m rest ih => by_cases own : wanted m = true <;> simp [own,ih]

end

-- One sink among others, over the messages of a session.
structure Isolated (earlier later : List Sink) (s : Sink) (turn : Nat) (ms : List Message) : Prop where
  -- It accepts all messages without channels, and otherwise those that share one,
  accepts : ∀ m, s.accepts m = true ↔ s.channels = none ∨ ∃ own c, s.channels = some own ∧ c ∈ own ∧ c ∈ m.channels
  -- no failure leaves the loop, which sends what the desk notes of each message and counts it,
  answers : (alertAll (earlier ++ s :: later) turn ms).run [] =
    (.ok ((tellings (earlier ++ s :: later) turn ms).map delivered),(tellings (earlier ++ s :: later) turn ms).flatten)
  -- each message is sent to it once if it accepts it and not otherwise,
  once : (tellings (earlier ++ s :: later) turn ms).map (sentTo earlier.length) = ms.map fun m => if s.accepts m then [m] else []
  -- and all in all it is sent what it accepts, in order.
  received : sentTo earlier.length (tellings (earlier ++ s :: later) turn ms).flatten = ms.filter s.accepts

theorem accepts_iff (s : Sink) (m : Message) :
    s.accepts m = true ↔ s.channels = none ∨ ∃ own c, s.channels = some own ∧ c ∈ own ∧ c ∈ m.channels := by
  unfold accepts
  cases s.channels with
  | none => simp
  | some own => simp

theorem alerts_isolated (earlier later : List Sink) (s : Sink) (turn : Nat) (ms : List Message) :
    Isolated earlier later s turn ms := by
  have once := tellings_sent earlier later s turn ms
  refine ⟨accepts_iff s,?_,once,?_⟩
  · simpa using alertAll_run (earlier ++ s :: later) ms turn []
  · rw [sentTo_flatten,once,singles_flatten]

end Sink
end OrderDesk
