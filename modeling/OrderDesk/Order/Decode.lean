import OrderDesk.Calendar.Field
import OrderDesk.Condition.Decode
import OrderDesk.Order.Encode

-- Reading parameters. Each field has a wire name and a plain name; the wire name wins when both are given. All
-- fields are checked, common ones first, and the first issue is the one reported.
namespace OrderDesk

open Checked Validation

namespace Field

def token : Key := .ofName "token"
def chainId : Key := ⟨"chainId","chain_id"⟩
def notifyChannels : Key := ⟨"notifyChannels","notify_channels"⟩
def triggerPrice : Key := ⟨"triggerPrice","trigger_price"⟩
def sellPercent : Key := ⟨"sellPercent","sell_percent"⟩
def receiveToken : Key := ⟨"receiveToken","receive_token"⟩
def conditions : Key := .ofName "conditions"
def sellToken : Key := ⟨"sellToken","sell_token"⟩
def spendAmount : Key := ⟨"spendAmount","spend_amount"⟩
def maxSpendTotal : Key := ⟨"maxSpendTotal","max_spend_total"⟩
def cooldownMinutes : Key := ⟨"cooldownMinutes","cooldown_minutes"⟩
def amountPerExecution : Key := ⟨"amountPerExecution","amount_per_execution"⟩
def interval : Key := .ofName "interval"
def maxExecutions : Key := ⟨"maxExecutions","max_executions"⟩
def endDate : Key := ⟨"endDate","end_date"⟩
def buyToken : Key := ⟨"buyToken","buy_token"⟩
def totalAmount : Key := ⟨"totalAmount","total_amount"⟩
def duration : Key := .ofName "duration"
def slices : Key := .ofName "slices"
def trailPercent : Key := ⟨"trailPercent","trail_percent"⟩
def activationConditions : Key := ⟨"activationConditions","activation_conditions"⟩
def initialPrice : Key := ⟨"initialPrice","initial_price"⟩
def priceField : Key := ⟨"priceField","price_field"⟩
def stopLoss : Key := ⟨"stopLoss","stop_loss"⟩
def takeProfit : Key := ⟨"takeProfit","take_profit"⟩

end Field

namespace Interval

def named : Check Interval := oneOf names

def ofJson (v : Json) : Checked Interval :=
  match named v with
  | ok interval => ok interval
  | notNamed =>
    match positive v with
    | ok length => ok (.seconds length)
    | notLength =>
      zipWith (fun interval _ => interval) (notNamed.under (.key "literal['hourly','daily','weekly','monthly']"))
        (notLength.under (.key "constrained-float"))

end Interval

namespace Terms

def percentOf (fields : Fields) : Checked Binary64 := given Field.sellPercent 100 percent fields

def receiveTokenOf (fields : Fields) : Checked (Option String) := given Field.receiveToken none (optional text) fields

def saleOf (fields : Fields) : Checked Sale := zipWith Sale.mk (percentOf fields) (receiveTokenOf fields)

def conditionsOf (fields : Fields) : Checked Group := needed Field.conditions Group.ofJson fields

def purchaseOf (amount : Key) (fields : Fields) : Checked Purchase :=
  zipWith Purchase.mk (needed Field.sellToken nonEmptyText fields) (needed amount positive fields)

def recurringOf (fields : Fields) : Checked Recurring :=
  Recurring.mk <$> purchaseOf Field.amountPerExecution fields
    <*> needed Field.interval Interval.ofJson fields
    <*> given Field.conditions none (optional Group.ofJson) fields
    <*> given Field.maxExecutions none (optional (wholeAtLeast 1)) fields
    <*> given Field.endDate none (optional Calendar.moment) fields

def slicedOf (fields : Fields) : Checked Sliced :=
  Sliced.mk <$> needed Field.buyToken nonEmptyText fields
    <*> needed Field.totalAmount positive fields
    <*> needed Field.duration positive fields
    <*> needed Field.slices (wholeAtLeast 1) fields
    <*> given Field.conditions none (optional Group.ofJson) fields

def trailingOf (fields : Fields) : Checked TrailingTerms :=
  (fun trail percent activation initial field receive => ⟨trail,⟨percent,receive⟩,activation,initial,field⟩)
    <$> needed Field.trailPercent (boundedNumber [.below 100,.above 0]) fields
    <*> percentOf fields
    <*> given Field.activationConditions none (optional Group.ofJson) fields
    <*> given Field.initialPrice none (optional positive) fields
    <*> given Field.priceField "price" text fields
    <*> receiveTokenOf fields

def legOf (fields : Fields) : Checked Leg := zipWith Leg.mk (conditionsOf fields) (percentOf fields)

def ofFields (kind : Kind) (fields : Fields) : Checked Terms :=
  match kind with
  | .stopLoss => zipWith stopLoss (needed Field.triggerPrice positive fields) (saleOf fields)
  | .takeProfit => zipWith takeProfit (needed Field.triggerPrice positive fields) (saleOf fields)
  | .conditionalSell => zipWith conditionalSell (conditionsOf fields) (saleOf fields)
  | .conditionalBuy => zipWith conditionalBuy (conditionsOf fields) (purchaseOf Field.spendAmount fields)
  | .smartEntry =>
    smartEntry <$> conditionsOf fields
      <*> purchaseOf Field.spendAmount fields
      <*> given Field.maxSpendTotal none (optional positive) fields
      <*> given Field.cooldownMinutes 60 (boundedNumber [.atLeast 0]) fields
  | .dca => (recurringOf fields).map dca
  | .twap => (slicedOf fields).map twap
  | .trailingStop => (trailingOf fields).map trailingStop
  | .dualProtection =>
    dualProtection <$> needed Field.stopLoss (record "ProtectionLeg" legOf) fields
      <*> needed Field.takeProfit (record "ProtectionLeg" legOf) fields
      <*> receiveTokenOf fields

-- A budget covers at least one purchase.
def affordable : Terms → Bool
  | smartEntry _ purchase (some budget) _ => !(Number.float budget).lt (.float purchase.amount)
  | _ => true

end Terms

namespace Params

-- The parameters of a kind; whether they fit together is asked once each of them is right.
def ofFields (kind : Kind) (fields : Fields) : Checked Params :=
  let read : Checked Params :=
    Params.mk <$> needed Field.token nonEmptyText fields
      <*> given Field.chainId none (optional text) fields
      <*> given Field.notifyChannels [] (list text) fields
      <*> Terms.ofFields kind fields
  read.andThen fun p =>
    if p.terms.affordable then ok p else refuse (.rule "maxSpendTotal must be at least spendAmount")

def parse (kind raw : Json) : Except Fault Params :=
  match Kind.request kind with
  | .error fault => .error fault
  | .ok kind =>
    match raw with
    | .obj fields => (ofFields kind fields).orFault ""
    | _ => .error (.invalid "params" "expected an object")

def recheck (kind : Kind) (p : Params) : Except Fault Params :=
  if p.kind = kind then (ofFields kind p.fields).orFault ""
  else .error (.invalid "type" s!"params of type '{p.kind.name}' do not match order type '{kind.name}'")

-- A tag without a text is named by what it is.
def tagText (tag : Json) : String :=
  if tag.printable then tag.display else s!"<unprintable {tag.kindName} object>"

def ofTagged (fields : Fields) : Checked Params :=
  match Fields.get? "type" fields with
  | none => refuse .missingTag
  | some tag =>
    match Kind.ofJson? tag with
    | some kind => (ofFields kind fields).under (.key kind.name)
    | none => refuse (.unknownTag (tagText tag) (Kind.all.map Kind.name))

def parseTagged (fields : Fields) : Except Fault Params := (ofTagged fields).orFault ""

end Params
end OrderDesk
