import OrderDesk.Proofs.Desk.Visits
import OrderDesk.Proofs.Numeric.Sign
import OrderDesk.Proofs.Order.Terms

-- The mark of a trailing stop: it is nothing or a float other than zero, so that following the market never
-- fails for want of a number to divide by.
namespace OrderDesk
namespace Trailing

-- Marks are nothing or floats.
def Typed (t : Trailing) : Prop := t.mark = .null ∨ ∃ x, t.mark = .float x

def Sound (t : Trailing) : Prop := t.mark = .null ∨ ∃ x, t.mark = .float x ∧ x.isZero = false

theorem Sound.typed {t : Trailing} (sound : t.Sound) : t.Typed := by
  rcases sound with none | ⟨x,held,-⟩
  · exact Or.inl none
  · exact Or.inr ⟨x,held⟩

theorem usable_above {v : Json} {price : Number} (usable : usable? v = some price) :
    v.number? = some price ∧ price.le 0 = false := by
  unfold usable? at usable
  split at usable
  · split at usable
    · cases usable
    · cases usable
      rename_i read above
      exact ⟨read,Bool.not_eq_true _ ▸ above⟩
  · cases usable

-- A mark stays as it is, or is the price.
theorem raised_cases {mark after : Json} {price : Number} (made : raised mark price = .ok after) :
    after = mark ∨ ∃ x, price.toFloat? = some x ∧ after = .float x := by
  unfold raised at made
  cases converted : price.toFloat? with
  | none =>
    rw [converted] at made
    dsimp only at made
    split at made
    · cases made
    · split at made
      · cases made
      · split at made
        · cases made
        · exact Or.inl (Except.ok.inj made).symm
  | some x =>
    rw [converted] at made
    dsimp only at made
    split at made
    · exact Or.inr ⟨x,rfl,(Except.ok.inj made).symm⟩
    · split at made
      · cases made
      · split at made
        · exact Or.inr ⟨x,rfl,(Except.ok.inj made).symm⟩
        · exact Or.inl (Except.ok.inj made).symm

theorem raised_sound {mark after : Json} {price : Number} (sound : Sound ⟨mark⟩) (above : price.le 0 = false)
    (made : raised mark price = .ok after) : Sound ⟨after⟩ := by
  rcases raised_cases made with rfl | ⟨x,converted,rfl⟩
  · exact sound
  · exact Or.inr ⟨x,rfl,Number.toFloat_nonzero above converted⟩

-- What is followed is a usable price.
theorem follow_cases {t next : Trailing} {terms : TrailingTerms} {snapshot : Snapshot} {fields : Fields}
    (followed : t.follow terms snapshot = .ok (next,fields)) :
    next = t ∨ ∃ price, usable? (Snapshot.resolve snapshot terms.priceField) = some price ∧ raised t.mark price = .ok next.mark := by
  unfold follow at followed
  cases usable : usable? (Snapshot.resolve snapshot terms.priceField) with
  | none =>
    rw [usable] at followed
    cases followed
    exact Or.inl rfl
  | some price =>
    rw [usable] at followed
    obtain ⟨mark,made,rest⟩ := bind_eq_ok.mp followed
    split at rest
    · cases rest
    · obtain ⟨fields,derives,same⟩ := bind_eq_ok.mp rest
      cases same
      exact Or.inr ⟨price,rfl,made⟩

theorem follow_sound {t next : Trailing} {terms : TrailingTerms} {snapshot : Snapshot} {fields : Fields} (sound : t.Sound)
    (followed : t.follow terms snapshot = .ok (next,fields)) : next.Sound := by
  rcases follow_cases followed with rfl | ⟨price,usable,made⟩
  · exact sound
  · exact raised_sound sound (usable_above usable).2 made

theorem follow_typed {t next : Trailing} {terms : TrailingTerms} {snapshot : Snapshot} {fields : Fields} (typed : t.Typed)
    (followed : t.follow terms snapshot = .ok (next,fields)) : next.Typed := by
  rcases follow_cases followed with rfl | ⟨price,usable,made⟩
  · exact typed
  · rcases raised_cases made with same | ⟨x,-,same⟩
    · rw [Typed,same]
      exact typed
    · exact Or.inr ⟨x,same⟩

-- The mark after a price, where it is a float or becomes one.
def reached (mark : Json) (price : Number) (x : Binary64) : Binary64 :=
  match mark with
  | .float high => if price.gt (.float high) then x else high
  | _ => x

-- What is derived from a mark and a price.
def shown (high : Binary64) (price : Number) (x percent : Binary64) : Fields := [("highWaterMark",.float high),
  ("stopPrice",.float (high.mul (keep percent))),("drawdownPercent",.float (((high.sub x).div high).mul 100)),
  ("triggered",.float (if price.le (.float (high.mul (keep percent))) then 1 else 0))]

section
variable {high x percent : Binary64} {price : Number}

theorem shown_high : (shown high price x percent).get? "highWaterMark" = some (.float high) := by
  simp [shown,Fields.get?]

theorem shown_stop : (shown high price x percent).get? "stopPrice" = some (.float (high.mul (keep percent))) := by
  simp [shown,Fields.get?]

theorem shown_triggered : (shown high price x percent).get? "triggered" =
    some (.float (if price.le (.float (high.mul (keep percent))) then 1 else 0)) := by
  simp [shown,Fields.get?]

end

-- A price that is converted is followed without fail, and all that is derived from it is a float.

section
variable {price : Number} {x : Binary64}

theorem derived_number {high : Binary64} (nonzero : high.isZero = false) (converted : price.toFloat? = some x) (percent : Binary64) :
    derived (.float high) (.float high) price percent = .ok (shown high price x percent) := by
  have stop : stopPrice (.float high) percent = .ok (.float (high.mul (keep percent))) := rfl
  have drop : drawdown (.float high) price = .ok (.float (((high.sub x).div high).mul 100)) := by
    rw [drawdown]
    have below : needNumber ((Number.float high).sub? price) = .ok (.float (high.sub x)) := by
      have floats : (Number.float high).sub? price = Number.both? Binary64.sub (.float high) price := by cases price <;> rfl
      have own : (Number.float high).toFloat? = some high := rfl
      rw [floats,Number.both?,own,converted]
      rfl
    have part : needNumber ((Number.float (high.sub x)).div? (.float high)) = .ok (.float ((high.sub x).div high)) := rfl
    have nonzero : (Number.float high).isZero = false := nonzero
    rw [below,bind_ok,nonzero,part]
    rfl
  rw [derived,stop,drop]
  rfl

theorem raised_number {t : Trailing} (typed : t.Typed) (converted : price.toFloat? = some x) :
    raised t.mark price = .ok (.float (reached t.mark price x)) := by
  unfold raised
  rw [converted]
  rcases typed with none | ⟨high,held⟩
  · rw [none]
    rfl
  · rw [held,reached]
    show (if price.gt (.float high) = true then _ else _) = _
    split <;> rfl

theorem follow_number {t : Trailing} {terms : TrailingTerms} {snapshot : Snapshot} (typed : t.Typed)
    (usable : usable? (Snapshot.resolve snapshot terms.priceField) = some price) (converted : price.toFloat? = some x)
    (nonzero : (reached t.mark price x).isZero = false) :
    t.follow terms snapshot = .ok (⟨.float (reached t.mark price x)⟩,shown (reached t.mark price x) price x terms.trailPercent) := by
  rw [follow,usable]
  simp only [raised_number typed converted,bind_ok,Json.countable?,Json.number?,derived_number nonzero converted]
  rfl

end

-- The mark after a price that is a float.
def climbed (mark : Json) (price : Binary64) : Binary64 :=
  match mark with
  | .float high => if (Number.float price).gt (.float high) then price else high
  | _ => price

theorem climbed_reached (mark : Json) (price : Binary64) : climbed mark price = reached mark (.float price) price := by
  cases mark <;> rfl

theorem follow_float {t : Trailing} {terms : TrailingTerms} {snapshot : Snapshot} {price : Binary64} (sound : t.Sound)
    (found : Snapshot.resolve snapshot terms.priceField = .float price) (above : (Number.float price).le 0 = false) :
    t.follow terms snapshot = .ok (⟨.float (climbed t.mark price)⟩,shown (climbed t.mark price) (.float price) price terms.trailPercent) := by
  have usable : usable? (.float price) = some (.float price) := if_neg (by rw [above]; exact Bool.false_ne_true)
  have nonzero : (reached t.mark (.float price) price).isZero = false := by
    rcases raised_sound sound above (raised_number sound.typed rfl) with none | ⟨x,same,nonzero⟩
    · cases none
    · cases same
      exact nonzero
  rw [climbed_reached]
  exact follow_number sound.typed (found ▸ usable) rfl nonzero

-- A tick is to carry a finite number above zero.
def priced (v : Json) : Bool :=
  match v.number? with
  | some (.int n) => decide (0 < n)
  | some (.float x) => x.isFinite && x.positive
  | none => false

theorem unpriced_cases {v : Json} (unpriced : priced v = false) :
    usable? v = none ∨ v = .float .nan ∨ v = .float (.infinite false) := by
  cases v with
  | int n =>
    have least : (Number.int n).le 0 = true := by
      have bound : decide (0 < n) = false := unpriced
      refine (Number.int_le n 0).trans ?_
      simpa using bound
    exact Or.inl (if_pos least)
  | float x =>
    have bound : (x.isFinite && x.positive) = false := unpriced
    cases positive : x.positive with
    | true =>
      rw [positive,Bool.and_true] at bound
      cases x with
      | nan => exact Or.inr (Or.inl rfl)
      | infinite negative =>
        cases negative with
        | true => cases positive
        | false => exact Or.inr (Or.inr rfl)
      | finite negative quanta held => cases bound
    | false =>
      cases number : x.isNaN with
      | true =>
        cases x with
        | nan => exact Or.inr (Or.inl rfl)
        | infinite | finite => cases number
      | false =>
        have least : (Number.float x).le 0 = true := by rw [Number.float_le number,positive]; rfl
        exact Or.inl (if_pos least)
  | _ => exact Or.inl rfl

-- NaN is above no number, and becomes a mark only where there is none.
theorem climbed_nan {t : Trailing} (sound : t.Sound) :
    (t.mark = .null ∧ climbed t.mark .nan = .nan) ∨ t.mark ≠ .null ∧ .float (climbed t.mark .nan) = t.mark := by
  rcases sound with none | ⟨high,held,-⟩
  · rw [none]
    exact Or.inl ⟨rfl,rfl⟩
  · rw [held]
    exact Or.inr ⟨by simp,rfl⟩

-- Infinity is above every number but itself.
theorem climbed_infinite {t : Trailing} (sound : t.Sound) :
    (t.mark = .float .nan ∧ climbed t.mark (.infinite false) = .nan) ∨
      t.mark ≠ .float .nan ∧ climbed t.mark (.infinite false) = .infinite false := by
  rcases sound with none | ⟨high,held,-⟩
  · rw [none]
    exact Or.inr ⟨by simp,rfl⟩
  · rw [held]
    cases high with
    | nan => exact Or.inl ⟨rfl,rfl⟩
    | infinite negative =>
      refine Or.inr ⟨by simp,?_⟩
      cases negative <;> rfl
    | finite negative quanta held => exact Or.inr ⟨by simp,rfl⟩

-- The stop is a positive share of the mark.
theorem keep_positive {percent : Binary64} (above : (Number.float percent).gt 0 = true)
    (below : (Number.float percent).lt (.int 100) = true) : (keep percent).positive = true := by
  obtain ⟨quanta,held,rfl,short⟩ := Number.float_between 100 above below
  obtain ⟨part,small,less,divided⟩ := Binary64.part_finite held short
  obtain ⟨whole,one⟩ := Binary64.one_quanta
  show ((1 : Binary64).sub ((Binary64.finite false quanta held).div 100)).positive = true
  rw [divided,one]
  exact Binary64.sub_positive less

-- What a tick makes of a trailing stop: its state, and the snapshot to be checked.
structure Follows (t : Trailing) (terms : TrailingTerms) (snapshot : Snapshot) (next : Trailing) (fields : Fields) (triggered : Binary64) :
    Prop where
  followed : t.follow terms snapshot = .ok (next,fields)
  derived : fields.isEmpty = false
  triggered : fields.get? "triggered" = some (.float triggered)

theorem follow_nan {t : Trailing} {terms : TrailingTerms} {snapshot : Snapshot} (sound : t.Sound)
    (found : Snapshot.resolve snapshot terms.priceField = .float .nan) :
    ∃ fields, t.Follows terms snapshot ⟨.float (climbed t.mark .nan)⟩ fields 0 :=
  ⟨_,follow_float sound found rfl,rfl,rfl⟩

theorem follow_infinite {t : Trailing} {terms : TrailingTerms} {snapshot : Snapshot} (sound : t.Sound)
    (kept : (keep terms.trailPercent).positive = true)
    (found : Snapshot.resolve snapshot terms.priceField = .float (.infinite false)) :
    ∃ fields, (t.mark = .float .nan ∧ t.Follows terms snapshot t fields 0) ∨
      t.mark ≠ .float .nan ∧ t.Follows terms snapshot ⟨.float (.infinite false)⟩ fields 1 := by
  have followed := follow_float sound found rfl
  rw [shown] at followed
  rcases climbed_infinite sound with ⟨mark,same⟩ | ⟨number,same⟩
  · rw [same] at followed
    have kept : (⟨.float .nan⟩ : Trailing) = t := congrArg Trailing.mk mark.symm
    rw [kept] at followed
    exact ⟨_,Or.inl ⟨mark,followed,rfl,rfl⟩⟩
  · rw [same,Binary64.infinite_mul kept] at followed
    exact ⟨_,Or.inr ⟨number,followed,rfl,rfl⟩⟩

end Trailing

namespace Order

def Marked (o : Order) : Prop := ∀ t, o.trailing = some t → t.Sound

theorem New.marked {id : String} {now : Timestamp} {o : Order} (new : o.New id now) : o.Marked := by
  intro t held
  rw [new.trailing,initialTrailing] at held
  cases terms : o.params.terms with
  | trailingStop asked =>
    have trails := Terms.ofFields_trails (terms ▸ new.params.terms)
    rw [terms] at held
    cases held
    cases initial : asked.initialPrice with
    | none => exact Or.inl (congrArg optFloat initial)
    | some x =>
      have above := trails.initial x initial
      rw [Number.float_gt] at above
      exact Or.inr ⟨x,congrArg optFloat initial,Binary64.positive_nonzero above⟩
  | _ =>
    rw [terms] at held
    cases held

end Order

-- The mark of an order is the one it had, or the one that followed the market.
theorem Effect.trailing {now : Timestamp} {call : Call} {response : Response} {before after : Order}
    (effect : Effect now call response (some before) (some after)) : after.trailing = before.trailing ∨
      ∃ id snapshot t terms next fields, call = .prepare id snapshot ∧ before.trailing = some t ∧
        t.follow terms snapshot = .ok (next,fields) ∧ after.trailing = some next := by
  cases effect with
  | kept idle => exact Or.inl rfl
  | moved asked allowed => exact Or.inl (Move.apply_trailing _ _ _)
  | flagged asked allowed => exact Or.inl (Move.apply_trailing _ _ _)
  | executed asked takes =>
    rename_i last
    rw [takes.record]
    cases last <;> exact Or.inl rfl
  | observed asked sees =>
    rename_i id snapshot merged trailing ended
    have seen : after.trailing = trailing := by
      rw [sees.record]
      cases ended <;> rfl
    obtain ⟨own,same,outcome⟩ := Order.observe_record sees.observed
    have own : trailing = own := congrArg Order.trailing same
    rw [seen,own]
    rcases outcome with kept | ⟨t,terms,next,fields,held,followed,reaches⟩
    · exact Or.inl kept
    · exact Or.inr ⟨id,snapshot,t,terms,next,fields,asked,held,followed,reaches⟩

theorem Effect.marked {now : Timestamp} {call : Call} {response : Response} {before after : Order}
    (effect : Effect now call response (some before) (some after)) (marked : before.Marked) : after.Marked := by
  rcases effect.trailing with same | ⟨id,snapshot,t,terms,next,fields,-,held,followed,same⟩
  · rwa [Order.Marked,same]
  · intro reached made
    rw [same] at made
    cases made
    exact Trailing.follow_sound (marked t held) followed

namespace Desk

theorem run_marked {d : Desk} {visits earlier later : List Visit} (opened : d.Opened visits) (split : visits = earlier ++ later) :
    ∀ id o, (d.run earlier).stored id = some o → o.Marked := by
  subst split
  exact run_holds (fun new => new.marked) (fun effect marked => effect.marked marked) (opened_ready opened) (opened_holds opened)

end Desk
end OrderDesk
