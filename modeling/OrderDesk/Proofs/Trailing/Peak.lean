import OrderDesk.Proofs.Desk.History
import OrderDesk.Proofs.Desk.Stamps
import OrderDesk.Proofs.Numeric.Rank
import OrderDesk.Proofs.Trailing.Price
import OrderDesk.Proofs.Trailing.Tick

-- The mark of a trailing stop is the highest of its prices, in whatever order they come.
namespace OrderDesk
namespace Trailing

-- What ticks carry where the price should be: no number, a number that is not above zero, or a price.
inductive Quoted (v : Json) : Prop where
  | absent (none : v.number? = none)
  | low {price : Number} (read : v.number? = some price) (least : price.le 0 = true)
  | price {price : Number} {x : Binary64} (priced : Priced v price x)

-- The price as a float, if there is one.
def taken (v : Json) : List Binary64 := if priced v then (v.number?.bind Number.toFloat?).toList else []

-- The highest of some prices, nothing if there are none.
structure Peak (prices : List Binary64) (mark : Json) : Prop where
  none : mark = .null ↔ prices = []
  highest : prices ≠ [] → ∃ high ∈ prices, mark = .float high ∧ ∀ x ∈ prices, (Number.float x).le (.float high) = true

section
variable {v : Json} {price : Number} {x : Binary64} {prices : List Binary64} {t : Trailing}

theorem Priced.priced (own : Priced v price x) : Trailing.priced v = true := by
  unfold Trailing.priced
  rw [own.read]
  have above := own.above
  cases price with
  | int n =>
    have least : decide (n ≤ 0) = false := (Number.int_le n 0).symm.trans (Number.gt_le above)
    have bound := of_decide_eq_false least
    exact decide_eq_true (by omega)
  | float y =>
    rw [Number.float_gt] at above
    cases own.converted
    dsimp only
    rw [own.finite,above]
    rfl

theorem Priced.taken (own : Priced v price x) : taken v = [x] := by
  rw [Trailing.taken,own.priced,own.read]
  simp [own.converted]

theorem Priced.positive (own : Priced v price x) : x.positive = true := by
  have above := own.above
  rcases Number.toFloat_cases own.converted with same | ⟨n,same,nearest⟩
  · rwa [same,Number.float_gt] at above
  · rw [same] at above
    rw [nearest]
    have least : decide (n ≤ 0) = false := (Number.int_le n 0).symm.trans (Number.gt_le above)
    have bound := of_decide_eq_false least
    exact Binary64.ofInt_positive (by omega)

theorem low_unpriced (read : v.number? = some price) (least : price.le 0 = true) : priced v = false := by
  unfold priced
  rw [read]
  cases price with
  | int n =>
    have bound : decide (n ≤ 0) = true := (Number.int_le n 0).symm.trans least
    have bound := of_decide_eq_true bound
    exact decide_eq_false (by omega)
  | float y =>
    have low : y.positive = false := by
      cases above : y.positive with
      | false => rfl
      | true =>
        rw [← Number.float_gt] at above
        rw [Number.gt_le above] at least
        cases least
    dsimp only
    rw [low,Bool.and_false]

-- A tick is followed if a price is taken from it.
theorem Quoted.cases (quoted : Quoted v) : (taken v = [] ∧ usable? v = none) ∨ ∃ price x, Priced v price x ∧ taken v = [x] := by
  cases quoted with
  | absent none =>
    refine Or.inl ⟨?_,?_⟩
    · simp [taken,none]
    · rw [usable?,none]
  | low read least =>
    refine Or.inl ⟨?_,?_⟩
    · simp [taken,low_unpriced read least]
    · rw [usable?,read]
      exact if_pos least
  | price own => exact Or.inr ⟨_,_,own,own.taken⟩

theorem Peak.typed (peak : Peak prices t.mark) : t.Typed := by
  by_cases empty : prices = []
  · exact Or.inl (peak.none.mpr empty)
  · obtain ⟨high,-,held,-⟩ := peak.highest empty
    exact Or.inr ⟨high,held⟩

theorem Peak.single (x : Binary64) (number : x.positive = true) : Peak [x] (.float x) := by
  refine ⟨by simp,fun _ => ⟨x,List.mem_singleton_self x,rfl,?_⟩⟩
  intro y member
  rw [List.mem_singleton.mp member,Binary64.rank_le number number]
  exact decide_eq_true (Nat.le_refl _)

-- One more price, compared before it is converted.
theorem Peak.raised (peak : Peak prices t.mark) (positive : ∀ y ∈ prices, y.positive = true) (own : Priced v price x) :
    Peak (prices ++ [x]) (.float (reached t.mark price x)) := by
  by_cases empty : prices = []
  · rw [peak.none.mpr empty,empty]
    exact Peak.single x own.positive
  · obtain ⟨high,listed,held,least⟩ := peak.highest empty
    have above := positive high listed
    refine ⟨by simp,fun _ => ?_⟩
    rw [held,reached]
    cases higher : price.gt (.float high) with
    | true =>
      have step := Number.gt_rank own.above own.converted own.finite above higher
      refine ⟨x,by simp,rfl,?_⟩
      intro y member
      rcases List.mem_append.mp member with earlier | last
      · have below := least y earlier
        rw [Binary64.rank_le (positive y earlier) above] at below
        rw [Binary64.rank_le (positive y earlier) own.positive]
        exact decide_eq_true (Nat.le_trans (of_decide_eq_true below) step)
      · rw [List.mem_singleton.mp last,Binary64.rank_le own.positive own.positive]
        exact decide_eq_true (Nat.le_refl _)
    | false =>
      have step := Number.not_gt_rank own.above own.converted own.finite above higher
      refine ⟨high,List.mem_append_left _ listed,rfl,?_⟩
      intro y member
      rcases List.mem_append.mp member with earlier | last
      · exact least y earlier
      · rw [List.mem_singleton.mp last,Binary64.rank_le own.positive above]
        exact decide_eq_true step

-- The same prices in another order have the same peak.
theorem Peak.unique {others : List Binary64} {mark other : Json} (peak : Peak prices mark) (second : Peak others other)
    (positive : ∀ y ∈ prices, y.positive = true) (same : prices.Perm others) : mark = other := by
  by_cases empty : prices = []
  · rw [peak.none.mpr empty,second.none.mpr (List.nil_perm.mp (empty ▸ same))]
  · obtain ⟨high,listed,held,least⟩ := peak.highest empty
    obtain ⟨top,listedTop,heldTop,leastTop⟩ := second.highest (fun none => empty (List.perm_nil.mp (none ▸ same)))
    have inside := same.mem_iff.mpr listedTop
    have up := leastTop high (same.mem_iff.mp listed)
    have down := least top inside
    rw [Binary64.rank_le (positive _ listed) (positive _ inside)] at up
    rw [Binary64.rank_le (positive _ inside) (positive _ listed)] at down
    have equal := Binary64.rank_injective (positive _ listed) (positive _ inside)
      (Nat.le_antisymm (of_decide_eq_true up) (of_decide_eq_true down))
    rw [held,heldTop,equal]

end

end Trailing

namespace Order

-- The prices that an order takes from a tick: none while it is not watched.
def prices (o : Order) (snapshot : Snapshot) : List Binary64 :=
  match o.params.terms.trailing? with
  | some terms =>
    if o.status = .active ∨ o.status = .triggered then Trailing.taken (Snapshot.resolve snapshot terms.priceField) else []
  | none => []

-- The mark of an order that has taken these prices.
def Peaked (field : String) (o : Order) (prices : List Binary64) : Prop :=
  ∀ terms, o.params.terms = .trailingStop terms → terms.priceField = field → ∃ t, o.trailing = some t ∧
    Trailing.Peak (terms.initialPrice.toList ++ prices) t.mark ∧ ∀ x ∈ terms.initialPrice.toList ++ prices, x.positive = true

theorem New.peaked {id : String} {now : Timestamp} {o : Order} (new : o.New id now) (field : String) : o.Peaked field [] := by
  intro terms own _
  have trails := Terms.ofFields_trails (own ▸ new.params.terms)
  have held := new.trailing
  rw [own] at held
  refine ⟨⟨optFloat terms.initialPrice⟩,held,?_⟩
  rw [List.append_nil]
  cases initial : terms.initialPrice with
  | none =>
    refine ⟨⟨?_,?_⟩,?_⟩
    · simp [optFloat,Json.ofOption]
    · simp
    · simp
  | some x =>
    have above := trails.initial x initial
    rw [Number.float_gt] at above
    refine ⟨Trailing.Peak.single x above,?_⟩
    intro y member
    rwa [List.mem_singleton.mp member]

end Order

namespace Desk

def pricesAt (id : String) (d : Desk) (v : Visit) : List Binary64 :=
  match v.call with
  | .prepare named snapshot => if named = id then ((d.stored id).map fun o => o.prices snapshot).getD [] else []
  | _ => []

-- The prices that an order takes along a session.
def prices (id : String) (d : Desk) (visits : List Visit) : List Binary64 := d.history (pricesAt id) visits

-- A visit that has no price for the order other than those that can be told.
def Quotes (id field : String) (v : Visit) : Prop :=
  ∀ snapshot, v.call = .prepare id snapshot → Trailing.Quoted (Snapshot.resolve snapshot field)

section
variable {d : Desk} {v : Visit} {visits : List Visit} {id field : String} {before after : Order} {snapshot : Snapshot}
  {terms : TrailingTerms} {t : Trailing} {told : List Binary64}

theorem tick_peaked (ready : d.Ready (v :: visits)) (quoted : Trailing.Quoted (Snapshot.resolve snapshot terms.priceField))
    (asked : v.call = .prepare id snapshot) (stored : d.stored id = some before) (seen : (d.visit v).1.stored id = some after)
    (own : before.params.terms = .trailingStop terms) (held : before.trailing = some t)
    (peak : Trailing.Peak told t.mark) (positive : ∀ x ∈ told, x.positive = true) :
    ∃ next, after.trailing = some next ∧ Trailing.Peak (told ++ before.prices snapshot) next.mark ∧
      ∀ x ∈ told ++ before.prices snapshot, x.positive = true := by
  have timed := ready.timed v.now
  rw [Order.prices,own]
  dsimp only [Terms.trailing?]
  by_cases watched : before.status = .active ∨ before.status = .triggered
  · rw [if_pos watched]
    rcases quoted.cases with ⟨nothing,unusable⟩ | ⟨price,x,priced,taken⟩
    · have followed : t.follow terms snapshot = .ok (t,[]) := by rw [Trailing.follow,unusable]
      obtain ⟨storage,higher,-,prepared,same⟩ := prepare_announced timed stored watched own held peak.typed followed
      rw [visit_prepare asked prepared,same] at seen
      rw [nothing,List.append_nil]
      exact ⟨t,by rw [← Option.some.inj seen],peak,positive⟩
    · have followed := Trailing.follow_priced peak.typed priced
      obtain ⟨storage,higher,-,prepared,same⟩ := prepare_announced timed stored watched own held peak.typed followed
      rw [visit_prepare asked prepared,same] at seen
      rw [taken]
      refine ⟨_,by rw [← Option.some.inj seen],peak.raised positive priced,?_⟩
      intro y member
      rcases List.mem_append.mp member with earlier | last
      · exact positive y earlier
      · rw [List.mem_singleton.mp last]
        exact priced.positive
  · rw [if_neg watched,List.append_nil]
    rw [visit_prepare asked (prepare_idle snapshot timed stored watched)] at seen
    have same : before = after := Option.some.inj (stored.symm.trans seen)
    exact ⟨t,same ▸ held,peak,positive⟩

theorem quotes_telling (id field : String) : Telling id (pricesAt id) (Quotes id field) (Order.Peaked field) := by
  constructor
  · intro now o new
    exact new.peaked field
  · intro d v visits before after told ready quotes subject stored seen peaked terms own named
    have effect := visit_named ready subject
    rw [stored,seen] at effect
    rw [effect.lasts.params] at own
    obtain ⟨t,held,peak,positive⟩ := peaked terms own named
    cases asked : v.call with
    | prepare named snapshot =>
      rw [asked] at subject
      cases subject
      subst named
      have taken : pricesAt id d v = before.prices snapshot := by simp [pricesAt,asked,stored]
      rw [taken,← List.append_assoc]
      exact tick_peaked ready (quotes snapshot asked) asked stored seen own held peak positive
    | _ =>
      have nothing : pricesAt id d v = [] := by simp [pricesAt,asked]
      rw [nothing,List.append_nil]
      rcases effect.trailing with same | ⟨id,snapshot,t,terms,next,fields,prepares,-⟩
      · exact ⟨t,same.trans held,peak,positive⟩
      · rw [asked] at prepares
        cases prepares
  · intro d v apart
    unfold pricesAt
    split
    · rename_i named snapshot asked
      rw [asked] at apart
      exact if_neg fun same => apart (congrArg some same)
    · rfl
  · intro d v visits ready subject nothing
    unfold pricesAt
    split <;> simp [nothing]

end

-- What a session does with the marks of its trailing stops.
structure Peaks (d : Desk) (visits : List Visit) : Prop where
  highest : ∀ earlier later, visits = earlier ++ later → ∀ id o terms, (d.run earlier).stored id = some o →
    o.params.terms = .trailingStop terms → (∀ v ∈ earlier, Quotes id terms.priceField v) →
    ∃ t, o.trailing = some t ∧ Trailing.Peak (terms.initialPrice.toList ++ d.prices id earlier) t.mark
  climbs : ∀ earlier middle later, visits = earlier ++ (middle ++ later) → ∀ id before after terms,
    (d.run earlier).stored id = some before → (d.run (earlier ++ middle)).stored id = some after →
    before.params.terms = .trailingStop terms → (∀ v ∈ earlier ++ middle, Quotes id terms.priceField v) →
    ∃ t next, before.trailing = some t ∧ after.trailing = some next ∧
      (t.mark = .null ∨ ∃ low high, t.mark = .float low ∧ next.mark = .float high ∧ (Number.float low).le (.float high) = true)
  -- The same prices in another order, in this session or another one.
  unordered : ∀ (other : Desk) others, other.Opened others → ∀ earlier later first rest, visits = earlier ++ later →
    others = first ++ rest → ∀ id o terms named p asked, (d.run earlier).stored id = some o → (other.run first).stored named = some p →
    o.params.terms = .trailingStop terms → p.params.terms = .trailingStop asked →
    (∀ v ∈ earlier, Quotes id terms.priceField v) → (∀ v ∈ first, Quotes named asked.priceField v) →
    terms.initialPrice = asked.initialPrice → (d.prices id earlier).Perm (other.prices named first) → o.trailing = p.trailing
  idle : ∀ earlier v later, visits = earlier ++ v :: later → ∀ id snapshot, v.call = .prepare id snapshot →
    ∀ o, (d.run earlier).stored id = some o → ¬ (o.status = .active ∨ o.status = .triggered) →
    (d.run earlier).visit v = ({d.run earlier with clock := v.now},.prepared (.ok none))

theorem run_peaked {d : Desk} {visits earlier later : List Visit} {id : String} {o : Order} {terms : TrailingTerms}
    (opened : d.Opened visits) (split : visits = earlier ++ later) (stored : (d.run earlier).stored id = some o)
    (own : o.params.terms = .trailingStop terms) (quotes : ∀ v ∈ earlier, Quotes id terms.priceField v) :
    ∃ t, o.trailing = some t ∧ Trailing.Peak (terms.initialPrice.toList ++ d.prices id earlier) t.mark ∧
      ∀ x ∈ terms.initialPrice.toList ++ d.prices id earlier, x.positive = true := by
  subst split
  have told := run_told (quotes_telling id terms.priceField) (opened_ready opened) quotes (opened_told opened id _)
  exact told.held o stored terms own rfl

theorem run_peaks {d : Desk} {visits : List Visit} (opened : d.Opened visits) : d.Peaks visits := by
  have ready := opened_ready opened
  constructor
  · intro earlier later split id o terms stored own quotes
    obtain ⟨t,held,peak,-⟩ := run_peaked opened split stored own quotes
    exact ⟨t,held,peak⟩
  · intro earlier middle later split id before after terms held seen own quotes
    have continues : before.Continues after := by
      rw [run_append] at seen
      exact run_continues (opened.ready_at split) (run_stamped (split ▸ ready) (opened_holds opened)) held seen
    have same := continues.params
    obtain ⟨t,marked,peak,-⟩ := run_peaked opened split held own fun v member => quotes v (List.mem_append_left _ member)
    rw [← List.append_assoc] at split
    obtain ⟨next,reached,top,positive⟩ := run_peaked opened split seen (same ▸ own) quotes
    refine ⟨t,next,marked,reached,?_⟩
    rw [prices,history_append,← List.append_assoc] at top
    by_cases empty : terms.initialPrice.toList ++ d.prices id earlier = []
    · exact Or.inl (peak.none.mpr empty)
    · obtain ⟨low,listed,lowest,-⟩ := peak.highest empty
      obtain ⟨high,-,highest,least⟩ := top.highest (List.append_ne_nil_of_left_ne_nil empty _)
      exact Or.inr ⟨low,high,lowest,highest,least low (List.mem_append_left _ listed)⟩
  · intro other others openedOther earlier later first rest split splitOther id o terms named p asked stored storedOther own ownOther
      quotes quotesOther initial same
    obtain ⟨t,held,peak,positive⟩ := run_peaked opened split stored own quotes
    obtain ⟨u,heldOther,peakOther,-⟩ := run_peaked openedOther splitOther storedOther ownOther quotesOther
    rw [← initial] at peakOther
    have marks := peak.unique peakOther positive (same.append_left _)
    rw [held,heldOther]
    exact congrArg (fun mark => some (Trailing.mk mark)) marks
  · intro earlier v later split id snapshot asked o stored unwatched
    exact visit_prepare asked (prepare_idle snapshot ((opened.ready_at split).timed v.now) stored unwatched)

-- Prices up and down, one of them while the order is paused.
def swinging : List Visit := [
  ⟨.origin,.create (.str "trailing-stop") (.obj [("token",.str "ETH"),("trailPercent",.int 10),("initialPrice",.int 95)])⟩,
  ⟨.origin,.prepare "order_1" [("price",.int 100)]⟩,
  ⟨.origin,.prepare "order_1" [("price",.str "n/a")]⟩,
  ⟨.epoch,.pause "order_1"⟩,
  ⟨.epoch,.prepare "order_1" [("price",.int 120)]⟩,
  ⟨.epoch,.resume "order_1"⟩,
  ⟨.epoch,.prepare "order_1" [("price",.int 98)]⟩]

theorem swinging_peaks : (vacant .memory).Opened swinging ∧ (vacant .memory).Peaks swinging :=
  ⟨vacant_opened fun _ _ => trivial,run_peaks (vacant_opened fun _ _ => trivial)⟩

end Desk
end OrderDesk
