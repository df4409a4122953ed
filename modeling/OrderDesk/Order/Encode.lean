import OrderDesk.Condition.Encode
import OrderDesk.Order.Params

-- Parameters on the wire: the common fields first, then the kind, then the fields of the kind.
namespace OrderDesk

namespace Sale

def fields (s : Sale) : Fields := [("sellPercent",.float s.percent),("receiveToken",.optStr s.receiveToken)]

end Sale

def Leg.toJson (l : Leg) : Json := .obj [("conditions",l.conditions.toJson),("sellPercent",.float l.percent)]

def optGroup : Option Group → Json := Json.ofOption Group.toJson

def optFloat : Option Binary64 → Json := Json.ofOption Json.float

namespace Terms

def fields : Terms → Fields
  | stopLoss trigger sale | takeProfit trigger sale => ("triggerPrice",.float trigger) :: sale.fields
  | conditionalSell conditions sale => ("conditions",conditions.toJson) :: sale.fields
  | conditionalBuy conditions purchase =>
    [("conditions",conditions.toJson),("sellToken",.str purchase.sellToken),("spendAmount",.float purchase.amount)]
  | smartEntry conditions purchase budget cooldownMinutes =>
    [("conditions",conditions.toJson),("sellToken",.str purchase.sellToken),("spendAmount",.float purchase.amount),
     ("maxSpendTotal",optFloat budget),("cooldownMinutes",.float cooldownMinutes)]
  | dca plan =>
    [("sellToken",.str plan.purchase.sellToken),("amountPerExecution",.float plan.purchase.amount),
     ("interval",plan.interval.toJson),("conditions",optGroup plan.conditions),
     ("maxExecutions",Json.ofOption Json.int plan.count),
     ("endDate",Json.ofOption (fun t => .str t.fieldText) plan.endDate)]
  | twap plan =>
    [("buyToken",.str plan.buyToken),("totalAmount",.float plan.total),("duration",.float plan.duration),
     ("slices",.int plan.slices),("conditions",optGroup plan.conditions)]
  | trailingStop terms =>
    [("trailPercent",.float terms.trailPercent),("sellPercent",.float terms.sale.percent),
     ("activationConditions",optGroup terms.activation),("initialPrice",optFloat terms.initialPrice),
     ("priceField",.str terms.priceField),("receiveToken",.optStr terms.sale.receiveToken)]
  | dualProtection lower upper receiveToken =>
    [("stopLoss",lower.toJson),("takeProfit",upper.toJson),("receiveToken",.optStr receiveToken)]

end Terms

namespace Params

def fields (p : Params) : Fields :=
  [("token",.str p.token),("chainId",.optStr p.chainId),("notifyChannels",.strs p.notifyChannels),
   ("type",.str p.kind.name)] ++ p.terms.fields

-- Fields without a value are left out.
def toJson (p : Params) : Json := .obj (p.fields.filter fun field => !field.2.isNull)

end Params
end OrderDesk
