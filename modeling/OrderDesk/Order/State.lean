import OrderDesk.Calendar.Span
import OrderDesk.Condition.Evaluate
import OrderDesk.Order.Record

-- The state of trailing stops and schedules, and the snapshot fields derived from it. Conditions stay pure:
-- before they are asked, the state is brought up to date and added to the snapshot.
namespace OrderDesk

-- A number, or the fault of an integer too large for the float that is needed.
def needNumber : Option Number → Except Fault Number
  | some x => .ok x
  | none => .error .overflow

namespace Trailing

-- A price that can be followed: a number, and neither zero nor below.
def usable? (v : Json) : Option Number :=
  match v.number? with
  | some price => if price.le 0 then none else some price
  | none => none

-- The mark after a price: the first price, and every price above it.
def raised (mark : Json) (price : Number) : Except Fault Json :=
  let toPrice : Except Fault Json :=
    match price.toFloat? with
    | some x => .ok (.float x)
    | none => .error .overflow
  match mark with
  | .null => toPrice
  | mark => match mark.countable? with
    | none => .error .wrongKind
    | some high => if price.gt high then toPrice else .ok mark

-- The share of the mark that the stop lies below it.
def keep (trailPercent : Binary64) : Binary64 := 1 - trailPercent / 100

def stopPrice (high : Number) (trailPercent : Binary64) : Except Fault Number :=
  needNumber (high.mul? (.float (keep trailPercent)))

def drawdown (high price : Number) : Except Fault Number := do
  let below ← needNumber (high.sub? price)
  if high.isZero then throw .divisionByZero
  let part ← needNumber (below.div? high)
  needNumber (part.mul? (.float 100))

-- The fields that a mark and a price make; the trigger compares with the very stop that is shown.
def derived (mark : Json) (high price : Number) (trailPercent : Binary64) : Except Fault Fields := do
  let stop ← stopPrice high trailPercent
  let drop ← drawdown high price
  pure [("highWaterMark",mark),("stopPrice",.ofNumber stop),("drawdownPercent",.ofNumber drop),
    ("triggered",.float (if price.le stop then 1 else 0))]

-- Raises the mark. Without a usable price nothing is derived and nothing changes.
def follow (t : Trailing) (terms : TrailingTerms) (snapshot : Snapshot) : Except Fault (Trailing × Fields) :=
  match usable? (Snapshot.resolve snapshot terms.priceField) with
  | none => .ok (t,[])
  | some price => do
    let mark ← raised t.mark price
    match mark.countable? with
    | none => throw .wrongKind
    | some high => pure (⟨mark⟩,← derived mark high price terms.trailPercent)

end Trailing

namespace Terms

def endDate? : Terms → Option Timestamp
  | dca plan => plan.endDate
  | _ => none

def scheduled : Terms → Bool
  | dca _ | twap _ => true
  | _ => false

def interval : Terms → Except Fault Number
  | dca plan => .ok plan.interval.length
  | twap plan => match plan.sliceInterval? with
    | some length => .ok (.float length)
    | none => .error .overflow
  | _ => .error .noSuchPart

def trailing? : Terms → Option TrailingTerms
  | trailingStop terms => some terms
  | _ => none

end Terms

namespace Schedule

def usedUp (remaining : Json) : Except Fault Bool :=
  match remaining with
  | .null => .ok false
  | v => match v.countable? with
    | some n => .ok (n.le 0)
    | none => .error .wrongKind

-- The count is used up, or the end date has come.
def exhausted (s : Schedule) (terms : Terms) (now : Timestamp) : Except Fault Bool := do
  if ← usedUp s.remaining then pure true
  else match terms.endDate? with
    | none => pure false
    | some last => pure (decide (0 ≤ (← now.minus last)))

-- Zero when nothing may be executed any more, minus one when nothing bounds it.
def remainingField (s : Schedule) (ended : Bool) : Json :=
  if ended then .int 0 else if s.remaining.isNull then .int (-1) else s.remaining

def untilDue (s : Schedule) (now : Timestamp) : Except Fault Number :=
  match s.nextDue with
  | none => .ok (.float 0)
  | some due => do
    let seconds ← needNumber (Number.div? (.int (← due.minus now)) (.int secondMicros))
    pure (seconds.max (.float 0))

def derived (s : Schedule) (terms : Terms) (now : Timestamp) : Except Fault Fields := do
  let ended ← s.exhausted terms now
  pure [("secondsUntilDue",.ofNumber (← s.untilDue now)),("remainingExecutions",s.remainingField ended),
    ("executionsDone",s.done)]

def stepped (count : Json) (change : Int) : Except Fault Json :=
  match count.countable? with
  | some n => (needNumber (n.add? (.int change))).map Json.ofNumber
  | none => .error .wrongKind

-- An update that failed, and how far it had come.
structure Interrupted where
  reached : Schedule
  fault : Fault

def failing (s : Schedule) : Except Fault α → Except Interrupted α
  | .ok a => .ok a
  | .error fault => .error ⟨s,fault⟩

-- One execution: counted down and up, stamped, and the next one planned.
def advance (s : Schedule) (terms : Terms) (now : Timestamp) : Except Interrupted Schedule := do
  let remaining ← failing s (if s.remaining.isNull then .ok .null else stepped s.remaining (-1))
  let s := {s with remaining}
  let done ← failing s (stepped s.done 1)
  let s := {s with done,lastExecuted := some now}
  let due ← failing s (terms.interval >>= now.after)
  pure {s with nextDue := some due}

end Schedule

namespace Order

-- The state an order starts with. A schedule is due at once.
def initialTrailing (terms : Terms) : Option Trailing :=
  terms.trailing?.map fun t => ⟨optFloat t.initialPrice⟩

def initialSchedule (terms : Terms) (now : Timestamp) : Option Schedule :=
  match terms with
  | .dca plan => some ⟨Json.ofOption Json.int plan.count,.int 0,some now,none⟩
  | .twap plan => some ⟨.int plan.slices,.int 0,some now,none⟩
  | _ => none

def fresh (id : String) (params : Params) (now : Timestamp) : Order :=
  ⟨.str id,params,.created,.str "",now,now,none,none,.null,initialTrailing params.terms,
    initialSchedule params.terms now⟩

-- The parts of an order by themselves. An order that lacks the state they are about has no answer.

def followTrailing (o : Order) (snapshot : Snapshot) : Except Fault (Order × Fields) :=
  match o.params.terms.trailing?,o.trailing with
  | some terms,some t => (t.follow terms snapshot).map fun (t,fields) => ({o with trailing := some t},fields)
  | some terms,none =>
    if (Trailing.usable? (Snapshot.resolve snapshot terms.priceField)).isSome then .error .noSuchPart else .ok (o,[])
  | none,_ => .error .noSuchPart

def exhausted (o : Order) (now : Timestamp) : Except Fault Bool :=
  match o.schedule with
  | some s => s.exhausted o.params.terms now
  | none => .error .noSuchPart

def scheduleFields (o : Order) (now : Timestamp) : Except Fault Fields :=
  match o.schedule with
  | some s => s.derived o.params.terms now
  | none => .error .noSuchPart

-- One execution; a fault comes with the order as far as it was updated.
def advance (o : Order) (now : Timestamp) : Except (Order × Fault) Order :=
  match o.schedule with
  | none => .error (o,.noSuchPart)
  | some s => match s.advance o.params.terms now with
    | .ok s => .ok {o with schedule := some s}
    | .error interrupted => .error ({o with schedule := some interrupted.reached},interrupted.fault)

def withTrailing (o : Order) (snapshot merged : Snapshot) : Except Fault (Order × Snapshot) :=
  match o.trailing,o.params.terms.trailing? with
  | some t,some terms => do
    let (t,fields) ← t.follow terms snapshot
    pure ({o with trailing := some t},if fields.isEmpty then merged else Fields.set "trailing" (.obj fields) merged)
  | _,_ => .ok (o,merged)

def withSchedule (o : Order) (now : Timestamp) (merged : Snapshot) : Except Fault Snapshot :=
  match o.schedule with
  | some s =>
    if o.params.terms.scheduled then (s.derived o.params.terms now).map fun fields =>
      Fields.set "schedule" (.obj fields) merged
    else .ok merged
  | none => .ok merged

def observe (o : Order) (snapshot : Snapshot) (now : Timestamp) : Except Fault (Order × Snapshot) := do
  let (o,merged) ← o.withTrailing snapshot snapshot
  pure (o,← o.withSchedule now merged)

end Order
end OrderDesk
