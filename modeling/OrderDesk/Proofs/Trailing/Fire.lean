import OrderDesk.Proofs.Desk.Stock
import OrderDesk.Proofs.Trailing.Check
import OrderDesk.Proofs.Trailing.Price
import OrderDesk.Proofs.Trailing.Tick

-- Ticks with a price: the stop that is derived, the stop that is checked and the stop that is told are one.
namespace OrderDesk

-- The body of the notice of a new high.
def Trailing.newHigh (token : String) (high stop percent : Binary64) : String :=
  Text.strip ("\n".intercalate [token ++ " reached a new high.","","New high: $" ++ Decimal.compact high,
    "New trigger: $" ++ Decimal.compact stop,"Trail: " ++ Decimal.compact percent ++ "%"])

namespace Notice
variable {o : Order} {terms : TrailingTerms} {high : Binary64}

-- The stop that is told is computed once more from the mark, and comes to the same.
theorem markValues_float (high percent : Binary64) : markValues (some ⟨.float high⟩) percent = .ok
    [(.highPrice,.str (Decimal.compact high)),(.triggerValue,.str (Decimal.compact (high.mul (Trailing.keep percent))))] := rfl

theorem orderValues_trailing (own : o.params.terms = .trailingStop terms) (held : o.trailing = some ⟨.float high⟩) :
    orderValues o = .ok ([(.orderId,o.id),(.orderType,.str o.kind.name),(.status,.str o.status.name),
      (.token,.str o.params.token),(.error,if o.error.truthy then o.error else .str "")] ++
      (saleValues terms.sale ++ (.trailPercent,compactText terms.trailPercent) :: [(.highPrice,.str (Decimal.compact high)),
        (.triggerValue,.str (Decimal.compact (high.mul (Trailing.keep terms.trailPercent))))]) ++ scheduleValues o.schedule) := by
  rw [orderValues,termValues,own,held]
  simp only [markValues_float]
  rfl

-- Where a caller adds nothing, an order that says its terms has its notice.
theorem render_own {own : Values} (event : Event) (made : orderValues o = .ok own) : render event o [] =
    .ok ⟨event,(Wording.ofEvent event).title,fillBody (valueOf own []) (Wording.ofEvent event).lines,o.id,o.params.notifyChannels,[]⟩ := by
  have shown : shows (Wording.ofEvent event) [] = true := by
    simp only [shows,List.all_eq_true]
    intro line _ piece _
    cases piece <;> rfl
  rw [render,made]
  exact if_pos shown

theorem render_updated (own : o.params.terms = .trailingStop terms) (held : o.trailing = some ⟨.float high⟩) :
    ∃ n, render .trailingStopUpdated o [] = .ok n ∧ n.message.event = "trailing-stop-updated" ∧
      n.message.body = Trailing.newHigh o.params.token high (high.mul (Trailing.keep terms.trailPercent)) terms.trailPercent := by
  refine ⟨_,render_own _ (orderValues_trailing own held),rfl,?_⟩
  simp [message,fillBody,Wording.ofEvent,Wording.stated,fillLine,fillPiece,valueOf,Fields.get?,saleValues,compactText,
    Json.display,Trailing.newHigh,String.append_assoc]

end Notice

namespace Desk

-- Somebody is there to be told.
def Listens (d : Desk) : Prop := ∃ sinks, d.alarm = .sinks sinks

theorem log_messages (d : Desk) (e : Entry) : (d.log e).messages = d.messages := by
  simp [messages,log,Happening.message?]

theorem tell_messages (d : Desk) {o : Order} {event : Event} {n : Notice} (rendered : Notice.render event o [] = .ok n) :
    ∃ sent, (d.tell o event).messages = d.messages ++ sent ∧ (sent ≠ [] ↔ d.Listens) ∧ ∀ m ∈ sent, m = n.message := by
  cases alarm : d.alarm with
  | none =>
    refine ⟨[],?_,?_,?_⟩
    · simp [tell,alarm]
    · simp [Listens,alarm]
    · simp
  | broken message =>
    refine ⟨[],?_,?_,?_⟩
    · simp [tell,alarm,rendered,log_messages]
    · simp [Listens,alarm]
    · simp
  | sinks sinks =>
    refine ⟨[n.message],?_,?_,?_⟩
    · simp [tell,alarm,rendered,messages,Happening.message?]
    · simp [Listens,alarm]
    · simp

theorem followed_messages (d : Desk) (id : Json) {o : Order} {terms : TrailingTerms} {high : Binary64} (higher : Bool)
    (own : o.params.terms = .trailingStop terms) (held : o.trailing = some ⟨.float high⟩) :
    ∃ sent, (d.announceAll o (Tick.followed id o higher)).messages = d.messages ++ sent ∧
      (sent ≠ [] ↔ higher = true ∧ d.Listens) ∧ ∀ m ∈ sent, m.event = "trailing-stop-updated" ∧
        m.body = Trailing.newHigh o.params.token high (high.mul (Trailing.keep terms.trailPercent)) terms.trailPercent := by
  cases higher with
  | false => exact ⟨[],(List.append_nil _).symm,by simp,by simp⟩
  | true =>
    obtain ⟨n,rendered,event,body⟩ := Notice.render_updated own held
    let entry := orderEntry .info id s!"Order {id.display} new high {((o.trailing.map Trailing.mark).getD .null).display}"
    obtain ⟨sent,appended,told,same⟩ := tell_messages (d.log entry) rendered
    refine ⟨sent,?_,?_,?_⟩
    · rw [← log_messages d entry]
      exact appended
    · simp only [told,true_and]
      rfl
    · intro m member
      rw [same m member]
      exact ⟨event,body⟩

end Desk

-- One stop, derived from the mark, compared with the price and told with the mark.
structure Tick.Agrees (o : Order) (terms : TrailingTerms) (price : Number) (merged : Snapshot) (high stop : Binary64)
    (sent : List Message) : Prop where
  marked : Snapshot.resolve merged "trailing.highWaterMark" = .float high
  stopped : Snapshot.resolve merged "trailing.stopPrice" = .float stop
  checked : ∀ defaults now, ∃ f g, o.flow defaults now = .ok f ∧ f.Asks (Draft.nodeId o.id "check-condition") g ∧
    (g.evaluate merged = .ok true ↔
      price.le (.float stop) = true ∧ ∀ a, terms.activation = some a → a.evaluate merged = .ok true)
  told : ∀ m ∈ sent, m.event = "trailing-stop-updated" ∧
    m.body = Trailing.newHigh o.params.token high stop terms.trailPercent

theorem Tick.agrees {o : Order} {terms : TrailingTerms} {price : Number} {high x : Binary64} {sent : List Message}
    (settled : o.params.Settled) (own : o.params.terms = .trailingStop terms)
    (told : ∀ m ∈ sent, m.event = "trailing-stop-updated" ∧
      m.body = Trailing.newHigh o.params.token high (high.mul (Trailing.keep terms.trailPercent)) terms.trailPercent)
    (snapshot : Snapshot) : Agrees o terms price
      (Fields.set "trailing" (.obj (Trailing.shown high price x terms.trailPercent)) snapshot) high
      (high.mul (Trailing.keep terms.trailPercent)) sent := by
  refine ⟨?_,?_,?_,told⟩
  · exact Snapshot.resolve_derived (by decide +kernel) Trailing.shown_high snapshot
  · exact Snapshot.resolve_derived (by decide +kernel) Trailing.shown_stop snapshot
  · intro defaults now
    obtain ⟨f,made,asks⟩ := Order.trailing_asks settled own defaults now
    refine ⟨f,_,made,asks,?_⟩
    rw [Template.withExtra_true,Template.triggered_derived Trailing.shown_triggered]
    have differs : (0 : Binary64) ≠ 1 := by decide +kernel
    cases price.le (.float (high.mul (Trailing.keep terms.trailPercent))) <;> simp [differs]

namespace Desk

-- What a session does with the prices of its trailing stops.
def Fires (d : Desk) (visits : List Visit) : Prop :=
  ∀ earlier v later, visits = earlier ++ v :: later → ∀ id snapshot, v.call = .prepare id snapshot →
    ∀ o terms price x, (d.run earlier).stored id = some o → (o.status = .active ∨ o.status = .triggered) →
    o.params.terms = .trailingStop terms → Trailing.Priced (Snapshot.resolve snapshot terms.priceField) price x →
    ∃ t merged high stop sent, o.trailing = some t ∧ ((d.run earlier).visit v).2 = .prepared (.ok (some merged)) ∧
      ((d.run earlier).visit v).1.stored id = some {o with trailing := some ⟨.float high⟩} ∧
      ((d.run earlier).visit v).1.messages = (d.run earlier).messages ++ sent ∧
      (sent ≠ [] ↔ t.Rises ⟨.float high⟩ ∧ (d.run earlier).Listens) ∧ Tick.Agrees o terms price merged high stop sent

theorem run_fires {d : Desk} {visits : List Visit} (stocked : d.Stocked visits) : d.Fires visits := by
  intro earlier v later split id snapshot asked o terms price x stored watched own priced
  obtain ⟨ready,typed⟩ := run_stocked stocked split
  obtain ⟨t,held,kind⟩ := (typed id o stored).trailing terms own
  have followed := Trailing.follow_priced kind priced
  generalize Trailing.reached t.mark price x = high at followed
  obtain ⟨storage,higher,rises,prepared,same⟩ := prepare_announced (ready.timed v.now) stored watched own held kind followed
  obtain ⟨sent,appended,told,bodies⟩ := followed_messages {d.run earlier with clock := v.now,storage} (.str id)
    (o:={o with trailing := some ⟨.float high⟩}) higher own rfl
  rw [visit_prepare asked prepared]
  refine ⟨t,Fields.set "trailing" (.obj (Trailing.shown high price x terms.trailPercent)) snapshot,high,
    high.mul (Trailing.keep terms.trailPercent),sent,held,rfl,same,appended,?_,?_⟩
  · rw [told,rises]
    rfl
  · exact Tick.agrees (ready.orders id o stored).1.params own bodies snapshot

-- A stop ten percent below the highest price, that fires at ninety.
def rising : List Visit := [
  ⟨.origin,.create (.str "trailing-stop") (.obj [("token",.str "ETH"),("trailPercent",.int 10)])⟩,
  ⟨.origin,.prepare "order_1" [("price",.int 100)]⟩,
  ⟨.epoch,.prepare "order_1" [("price",.int 90),("trailing.triggered",.int 0)]⟩]

theorem rising_fires : (vacant .memory).Stocked rising ∧ (vacant .memory).Fires rising :=
  ⟨opened_stocked (vacant_opened fun _ _ => trivial),run_fires (opened_stocked (vacant_opened fun _ _ => trivial))⟩

end Desk
end OrderDesk
