import OrderDesk.Proofs.Desk.Stamps
import OrderDesk.Proofs.Trailing.Check
import OrderDesk.Proofs.Trailing.Tick

-- Ticks without a price: when they leave the mark of a trailing stop alone and the stop unfired, and how they
-- fail to.
namespace OrderDesk

namespace Trailing
open Template

-- How a tick without a price still moves the mark: NaN is taken for the first price, infinity for a new high.
inductive Moves (t : Trailing) (terms : TrailingTerms) (snapshot : Snapshot) : Prop where
  | started (price : Snapshot.resolve snapshot terms.priceField = .float .nan) (mark : t.mark = .null)
  | raised (price : Snapshot.resolve snapshot terms.priceField = .float (.infinite false))
      (number : t.mark ≠ .float .nan) (below : t.mark ≠ .float (.infinite false))

-- How the check after such a tick is not false.
inductive Trips (t : Trailing) (terms : TrailingTerms) (snapshot merged : Snapshot) : Prop where
  -- Infinity is at the stop that it makes itself.
  | reached (price : Snapshot.resolve snapshot terms.priceField = .float (.infinite false)) (number : t.mark ≠ .float .nan)
      (asked : ∀ g, terms.activation = some g → g.evaluate merged ≠ .ok false)
  -- Where nothing is derived, the snapshot's own entry decides.
  | claimed {own : Number} (unusable : usable? (Snapshot.resolve snapshot terms.priceField) = none)
      (entry : (Snapshot.resolve snapshot "trailing.triggered").number? = some own) (one : own.toFloat? = some 1)
      (asked : ∀ g, terms.activation = some g → g.evaluate merged ≠ .ok false)
  | overlong {own : Number} (unusable : usable? (Snapshot.resolve snapshot terms.priceField) = none)
      (entry : (Snapshot.resolve snapshot "trailing.triggered").number? = some own) (large : own.toFloat? = none)

section
variable {t : Trailing} {terms : TrailingTerms} {snapshot merged : Snapshot}

theorem unusable_still (unusable : usable? (Snapshot.resolve snapshot terms.priceField) = none) : ¬ t.Moves terms snapshot := by
  rintro (⟨price⟩ | ⟨price⟩)
  · rw [price] at unusable
    cases unusable
  · rw [price] at unusable
    cases unusable

theorem unusable_trips (unusable : usable? (Snapshot.resolve snapshot terms.priceField) = none) :
    t.Trips terms snapshot merged ↔ ∃ own, (Snapshot.resolve snapshot "trailing.triggered").number? = some own ∧
      (own.toFloat? = none ∨ own.toFloat? = some 1 ∧ ∀ g, terms.activation = some g → g.evaluate merged ≠ .ok false) := by
  constructor
  · intro trips
    cases trips with
    | reached price =>
      rw [price] at unusable
      cases unusable
    | claimed _ entry one asked => exact ⟨_,entry,Or.inr ⟨one,asked⟩⟩
    | overlong _ entry large => exact ⟨_,entry,Or.inl large⟩
  · rintro ⟨own,entry,large | ⟨one,asked⟩⟩
    · exact .overlong unusable entry large
    · exact .claimed unusable entry one asked

theorem nan_moves (found : Snapshot.resolve snapshot terms.priceField = .float .nan) :
    t.Moves terms snapshot ↔ t.mark = .null := by
  refine ⟨?_,.started found⟩
  rintro (⟨-,mark⟩ | ⟨price⟩)
  · exact mark
  · rw [found] at price
    cases price

theorem nan_quiet (found : Snapshot.resolve snapshot terms.priceField = .float .nan) : ¬ t.Trips terms snapshot merged := by
  intro trips
  cases trips with
  | reached price =>
    rw [found] at price
    cases price
  | claimed unusable =>
    rw [found] at unusable
    cases unusable
  | overlong unusable =>
    rw [found] at unusable
    cases unusable

theorem infinite_moves (found : Snapshot.resolve snapshot terms.priceField = .float (.infinite false)) :
    t.Moves terms snapshot ↔ t.mark ≠ .float .nan ∧ t.mark ≠ .float (.infinite false) := by
  refine ⟨?_,fun ⟨number,below⟩ => .raised found number below⟩
  rintro (⟨price⟩ | ⟨-,number,below⟩)
  · rw [found] at price
    cases price
  · exact ⟨number,below⟩

theorem infinite_trips (found : Snapshot.resolve snapshot terms.priceField = .float (.infinite false)) :
    t.Trips terms snapshot merged ↔ t.mark ≠ .float .nan ∧ ∀ g, terms.activation = some g → g.evaluate merged ≠ .ok false := by
  refine ⟨?_,fun ⟨number,asked⟩ => .reached found number asked⟩
  intro trips
  cases trips with
  | reached price number asked => exact ⟨number,asked⟩
  | claimed unusable =>
    rw [found] at unusable
    cases unusable
  | overlong unusable =>
    rw [found] at unusable
    cases unusable

end

-- The mark moves and the check is not false in these ways only.
structure Tells (t : Trailing) (terms : TrailingTerms) (snapshot : Snapshot) (next : Trailing) (merged : Snapshot) : Prop where
  still : next.mark = t.mark ↔ ¬ t.Moves terms snapshot
  quiet : (withExtra triggered terms.activation).evaluate merged = .ok false ↔ ¬ t.Trips terms snapshot merged

section
variable {t : Trailing} {terms : TrailingTerms} {snapshot : Snapshot}

theorem unusable_tells (unusable : usable? (Snapshot.resolve snapshot terms.priceField) = none) :
    t.Tells terms snapshot t snapshot := by
  refine ⟨⟨fun _ => unusable_still unusable,fun _ => rfl⟩,?_⟩
  rw [withExtra_false,triggered_met,unusable_trips unusable]
  cases (Snapshot.resolve snapshot "trailing.triggered").number? with
  | none => simp
  | some own =>
    cases float : own.toFloat? with
    | none => simp [float]
    | some x => by_cases one : x = 1 <;> simp [float,one]

theorem nan_tells (sound : t.Sound) (found : Snapshot.resolve snapshot terms.priceField = .float .nan) :
    ∃ next fields, t.follow terms snapshot = .ok (next,fields) ∧ fields.isEmpty = false ∧
      t.Tells terms snapshot next (Fields.set "trailing" (.obj fields) snapshot) := by
  obtain ⟨fields,followed,derived,triggered⟩ := follow_nan sound found
  have differs : (0 : Binary64) ≠ 1 := by decide +kernel
  refine ⟨_,fields,followed,derived,?_,?_⟩
  · rw [nan_moves found]
    rcases climbed_nan sound with ⟨mark,-⟩ | ⟨mark,same⟩
    · simp [mark]
    · simp [mark,same]
  · rw [withExtra_false,triggered_derived triggered,decide_eq_false differs]
    simp [nan_quiet found]

theorem infinite_tells (sound : t.Sound) (kept : (keep terms.trailPercent).positive = true)
    (found : Snapshot.resolve snapshot terms.priceField = .float (.infinite false)) :
    ∃ next fields, t.follow terms snapshot = .ok (next,fields) ∧ fields.isEmpty = false ∧
      t.Tells terms snapshot next (Fields.set "trailing" (.obj fields) snapshot) := by
  obtain ⟨fields,⟨mark,follows⟩ | ⟨number,follows⟩⟩ := follow_infinite sound kept found
  · have differs : (0 : Binary64) ≠ 1 := by decide +kernel
    refine ⟨_,fields,follows.followed,follows.derived,?_,?_⟩
    · simp [infinite_moves found,mark]
    · rw [withExtra_false,triggered_derived follows.triggered,decide_eq_false differs,infinite_trips found]
      simp [mark]
  · refine ⟨_,fields,follows.followed,follows.derived,?_,?_⟩
    · simp [infinite_moves found,number,eq_comm]
    · rw [withExtra_false,triggered_derived follows.triggered,decide_eq_true rfl,infinite_trips found]
      simp [number]

-- One tick without a price, whatever else it carries.
theorem unpriced_tells (sound : t.Sound) (kept : (keep terms.trailPercent).positive = true)
    (unpriced : priced (Snapshot.resolve snapshot terms.priceField) = false) :
    ∃ next fields, t.follow terms snapshot = .ok (next,fields) ∧
      t.Tells terms snapshot next (if fields.isEmpty then snapshot else Fields.set "trailing" (.obj fields) snapshot) := by
  rcases unpriced_cases unpriced with unusable | found | found
  · refine ⟨t,[],?_,unusable_tells unusable⟩
    rw [follow,unusable]
  · obtain ⟨next,fields,followed,derived,tells⟩ := nan_tells sound found
    refine ⟨next,fields,followed,?_⟩
    rwa [derived]
  · obtain ⟨next,fields,followed,derived,tells⟩ := infinite_tells sound kept found
    refine ⟨next,fields,followed,?_⟩
    rwa [derived]

end

end Trailing

namespace Desk

-- What a session does with the ticks that carry no price for a trailing stop.
structure Guards (d : Desk) (visits : List Visit) : Prop where
  unwatched : ∀ earlier v later, visits = earlier ++ v :: later → ∀ id snapshot, v.call = .prepare id snapshot →
    ∀ o, (d.run earlier).stored id = some o → ¬ (o.status = .active ∨ o.status = .triggered) →
    ((d.run earlier).visit v).2 = .prepared (.ok none) ∧ ((d.run earlier).visit v).1.stored id = some o
  -- The flow of the order, whenever it is made, checks the merged snapshot.
  watched : ∀ earlier v later, visits = earlier ++ v :: later → ∀ id snapshot, v.call = .prepare id snapshot →
    ∀ o terms, (d.run earlier).stored id = some o → (o.status = .active ∨ o.status = .triggered) →
    o.params.terms = .trailingStop terms → Trailing.priced (Snapshot.resolve snapshot terms.priceField) = false →
    ∃ t next merged, o.trailing = some t ∧ ((d.run earlier).visit v).2 = .prepared (.ok (some merged)) ∧
      ((d.run earlier).visit v).1.stored id = some {o with trailing := some next} ∧
      ∀ defaults now, ∃ f g, o.flow defaults now = .ok f ∧ f.Asks (Draft.nodeId o.id "check-condition") g ∧
        (next.mark = t.mark ↔ ¬ t.Moves terms snapshot) ∧ (g.evaluate merged = .ok false ↔ ¬ t.Trips terms snapshot merged)

theorem run_guards {d : Desk} {visits : List Visit} (opened : d.Opened visits) : d.Guards visits := by
  have ready := opened_ready opened
  refine ⟨?_,?_⟩
  · intro earlier v later split id snapshot asked o stored unwatched
    have timed := (opened.ready_at split).timed v.now
    obtain ⟨after,prepared,same⟩ := prepare_unwatched snapshot timed stored unwatched
    rw [visit_prepare asked prepared]
    exact ⟨rfl,same⟩
  · intro earlier v later split id snapshot asked o terms stored watched own unpriced
    have timed := (opened.ready_at split).timed v.now
    have settled := ((opened.ready_at split).orders id o stored).1.params
    have trails := Terms.ofFields_trails (own ▸ settled.terms)
    have kept := Trailing.keep_positive trails.above trails.below
    have stamped : o.Stamped := run_stamped (split ▸ ready) (opened_holds opened) id o stored
    obtain ⟨t,held⟩ := Option.isSome_iff_exists.mp (stamped.trailing.mpr (by rw [Params.kind,own]; rfl))
    have sound := run_marked opened split id o stored t held
    obtain ⟨next,fields,followed,tells⟩ := Trailing.unpriced_tells sound kept unpriced
    obtain ⟨after,prepared,same⟩ := prepare_trailing timed stored watched own held sound followed
    rw [visit_prepare asked prepared]
    refine ⟨t,next,_,held,rfl,same,?_⟩
    intro defaults now
    obtain ⟨f,made,asks⟩ := Order.trailing_asks settled own defaults now
    exact ⟨f,_,made,asks,tells.still,tells.quiet⟩

-- A stop that is told of itself that it is triggered.
def claimed : List Visit := [
  ⟨.origin,.create (.str "trailing-stop") (.obj [("token",.str "ETH"),("trailPercent",.int 10)])⟩,
  ⟨.origin,.prepare "order_1" [("trailing",.obj [("triggered",.int 1)])]⟩]

theorem claimed_guards : (vacant .memory).Opened claimed ∧ (vacant .memory).Guards claimed :=
  ⟨vacant_opened fun _ _ => trivial,run_guards (vacant_opened fun _ _ => trivial)⟩

end Desk
end OrderDesk
