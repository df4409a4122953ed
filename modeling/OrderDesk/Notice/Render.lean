import OrderDesk.Condition.Summary
import OrderDesk.Notice.Wording
import OrderDesk.Order.State

-- Notices about orders. Slots are filled from the order and from what the caller adds; a slot without a value
-- is empty, so every wording can be filled.
namespace OrderDesk

inductive MetItem where
  | condition (c : Condition)
  | other (v : Json)

inductive Given where
  | value (v : Json)
  | met (items : List MetItem)

abbrev NoticeContext := List (String × Given)

structure Notice where
  event : Event
  title : String
  body : String
  orderId : Json
  channels : List String
  context : NoticeContext

namespace Notice

-- Values by slot.

abbrev Values := List (Slot × Json)

def compactOf (v : Json) : Except Fault String :=
  match v.countable? with
  | some x => match x.compact? with
    | some text => .ok text
    | none => .error .overflow
  | none => match v with
    | .str _ => .error (.badValue s!"Unknown format code 'g' for object of type '{v.kindName}'")
    | _ => .error .wrongKind

def compactText (x : Binary64) : Json := .str (Decimal.compact x)

def shortText (x : Binary64) : Json := .str x.short

-- Where notices name no token to receive, they name this one.
def usualToken : String := "USDC"

def receiveText (given : Option String) : Json :=
  match given with
  | none | some "" => .str usualToken
  | some token => .str token

def saleValues (sale : Sale) : Values :=
  [(.sellPercent,compactText sale.percent),(.receiveToken,receiveText sale.receiveToken)]

def purchaseValues (purchase : Purchase) : Values :=
  [(.sellToken,.str purchase.sellToken),(.spendAmount,shortText purchase.amount)]

def summaryOf (g : Group) : Slot × Json := (.conditionSummary,.str g.summary)

-- The high and the stop below it, once there is a high.
def markValues (t : Option Trailing) (trailPercent : Binary64) : Except Fault Values :=
  match t with
  | none => .ok []
  | some ⟨.null⟩ => .ok []
  | some ⟨mark⟩ => do
    let high ← compactOf mark
    match mark.countable? with
    | none => throw .wrongKind
    | some x =>
      let stop ← Trailing.stopPrice x trailPercent
      pure [(.highPrice,.str high),(.triggerValue,.str (← compactOf (.ofNumber stop)))]

def termValues (o : Order) : Except Fault Values :=
  match o.params.terms with
  | .stopLoss trigger sale | .takeProfit trigger sale => .ok ((.triggerValue,compactText trigger) :: saleValues sale)
  | .conditionalSell conditions sale => .ok (saleValues sale ++ [summaryOf conditions])
  | .conditionalBuy conditions purchase => .ok (summaryOf conditions :: purchaseValues purchase)
  | .smartEntry conditions purchase budget _ =>
    .ok (summaryOf conditions :: purchaseValues purchase ++ (budget.map fun x => (.maxSpendTotal,shortText x)).toList)
  | .dca plan =>
    let interval := match plan.interval with
      | .seconds length => .str (Decimal.compact length ++ "s")
      | named => named.toJson
    .ok (purchaseValues plan.purchase ++
      [(.interval,interval),(.conditionSummary,.str ((plan.conditions.map Group.summary).getD ""))])
  | .twap plan => match plan.sliceAmount? with
    | some amount => .ok [(.receiveToken,.str plan.buyToken),(.soldAmount,shortText amount)]
    | none => .error .overflow
  | .trailingStop terms =>
    (markValues o.trailing terms.trailPercent).map fun marks =>
      saleValues terms.sale ++ (.trailPercent,compactText terms.trailPercent) :: marks
  | .dualProtection _ _ receive => .ok [(.receiveToken,receiveText receive)]

def scheduleValues : Option Schedule → Values
  | none => []
  | some s =>
    [(.executionsDone,s.done)] ++ (if s.remaining.isNull then [] else [(.remainingExecutions,s.remaining)]) ++
      (s.nextDue.map fun due => (.nextExecution,.str due.text)).toList

def orderValues (o : Order) : Except Fault Values :=
  (termValues o).map fun values =>
    [(.orderId,o.id),(.orderType,.str o.kind.name),(.status,.str o.status.name),(.token,.str o.params.token),
     (.error,if o.error.truthy then o.error else .str "")] ++ values ++ scheduleValues o.schedule

-- Values of the caller.

def MetItem.line : MetItem → Except Fault String
  | .condition c => .ok ("  - " ++ c.summary)
  | .other v => v.shown.map ("  - " ++ ·)

def metLines (items : List MetItem) : Except Fault Json :=
  (items.mapM MetItem.line).map fun lines => .str ("\n".intercalate lines)

-- Reported conditions stand one on a line, unless they are a text already.
def givenValue (name : String) : Given → Except Fault Json
  | .met items => metLines items
  | .value v =>
    if name = Slot.metConditions.name then
      match v with
      | .str s => .ok (.str s)
      | .arr items => metLines (items.map .other)
      | .obj fields => metLines (fields.map fun field => .other (.str field.1))
      | _ => .error .wrongKind
    else .ok v

def givenValues : NoticeContext → Except Fault Fields
  | [] => .ok []
  | (name,given) :: rest => do
    let value ← givenValue name given
    pure ((name,value) :: (← givenValues rest))

def showsPiece (given : Fields) : Piece → Bool
  | .text _ => true
  | .slot s => (Fields.get? s.name given).all Json.printable

-- What the caller gives has to have a text where a slot asks for it. What the order says is a text or a count of
-- executions, and is printed whatever its size.
def shows (wording : Wording) (given : Fields) : Bool := wording.lines.all fun line => line.all (showsPiece given)

-- What the caller gives comes before what the order says.
def valueOf (own : Values) (given : Fields) (slot : Slot) : String :=
  match Fields.get? slot.name given with
  | some v => v.display
  | none => match own.find? fun entry => entry.1 == slot with
    | some (_,v) => v.display
    | none => ""

def fillPiece (fill : Slot → String) : Piece → String
  | .text s => s
  | .slot s => fill s

def fillLine (fill : Slot → String) (line : List Piece) : String := String.join (line.map (fillPiece fill))

def fillBody (fill : Slot → String) (lines : List (List Piece)) : String :=
  Text.strip ("\n".intercalate (lines.map (fillLine fill)))

def render (event : Event) (o : Order) (context : NoticeContext) : Except Fault Notice := do
  let own ← orderValues o
  let given ← givenValues context
  let wording := Wording.ofEvent event
  if shows wording given then
    pure ⟨event,wording.title,fillBody (valueOf own given) wording.lines,o.id,o.params.notifyChannels,context⟩
  else throw .unprintable

-- These names stand for the event and the order themselves, and are no slots.
def reserved : List String := ["event","order"]

-- The notice of an event by its name, none for a name that is no event.
def request (name : Json) (o : Order) (context : NoticeContext) : Except Fault (Option Notice) :=
  if !name.isKey || context.any fun entry => reserved.contains entry.1 then .error .wrongKind
  else match name.str?.bind Event.ofName? with
    | some event => (render event o context).map some
    | none => .ok none

end Notice
end OrderDesk
