import OrderDesk.Calendar.Timestamp
import OrderDesk.Condition.Basic
import OrderDesk.Order.Kind

-- What an order asks for: the token it watches, and the terms of its kind.
namespace OrderDesk

structure Sale where
  percent : Binary64
  receiveToken : Option String
deriving DecidableEq

structure Purchase where
  sellToken : String
  amount : Binary64
deriving DecidableEq

inductive Interval where
  | hourly
  | daily
  | weekly
  | monthly
  | seconds (length : Binary64)
deriving DecidableEq

-- Purchases in equal steps, without end unless a count or a date ends them.
structure Recurring where
  purchase : Purchase
  interval : Interval
  conditions : Option Group
  count : Option Int
  endDate : Option Timestamp
deriving BEq

-- One large sale in equal slices.
structure Sliced where
  buyToken : String
  total : Binary64
  duration : Binary64
  slices : Int
  conditions : Option Group
deriving BEq

structure TrailingTerms where
  trailPercent : Binary64
  sale : Sale
  activation : Option Group
  initialPrice : Option Binary64
  priceField : String
deriving BEq

structure Leg where
  conditions : Group
  percent : Binary64
deriving BEq

inductive Terms where
  | stopLoss (trigger : Binary64) (sale : Sale)
  | takeProfit (trigger : Binary64) (sale : Sale)
  | conditionalSell (conditions : Group) (sale : Sale)
  | conditionalBuy (conditions : Group) (purchase : Purchase)
  | smartEntry (conditions : Group) (purchase : Purchase) (budget : Option Binary64) (cooldownMinutes : Binary64)
  | dca (plan : Recurring)
  | twap (plan : Sliced)
  | trailingStop (terms : TrailingTerms)
  | dualProtection (lower upper : Leg) (receiveToken : Option String)
deriving BEq

structure Params where
  token : String
  chainId : Option String
  notifyChannels : List String
  terms : Terms
deriving BEq

namespace Interval

def names : List (String × Interval) :=
  [("hourly",hourly),("daily",daily),("weekly",weekly),("monthly",monthly)]

-- Named intervals are whole numbers of seconds.
def length : Interval → Number
  | hourly => .int 3600
  | daily => .int 86400
  | weekly => .int 604800
  | monthly => .int 2592000
  | seconds length => .float length

def toJson : Interval → Json
  | hourly => .str "hourly"
  | daily => .str "daily"
  | weekly => .str "weekly"
  | monthly => .str "monthly"
  | seconds length => .float length

end Interval

namespace Sliced

-- Nothing when there are more slices than a float can count.

def perSlice? (whole : Binary64) (slices : Int) : Option Binary64 :=
  (Number.div? (.float whole) (.int slices)).bind Number.toFloat?

def sliceAmount? (plan : Sliced) : Option Binary64 := perSlice? plan.total plan.slices

def sliceInterval? (plan : Sliced) : Option Binary64 := perSlice? plan.duration plan.slices

end Sliced

namespace Terms

def kind : Terms → Kind
  | stopLoss .. => .stopLoss
  | takeProfit .. => .takeProfit
  | conditionalSell .. => .conditionalSell
  | conditionalBuy .. => .conditionalBuy
  | smartEntry .. => .smartEntry
  | dca _ => .dca
  | twap _ => .twap
  | trailingStop _ => .trailingStop
  | dualProtection .. => .dualProtection

end Terms

namespace Params

def kind (p : Params) : Kind := p.terms.kind

-- The tokens an order is found by: a sliced sale also by the token it buys.
def tokens (p : Params) : List String :=
  match p.terms with
  | .twap plan => if plan.buyToken = p.token then [p.token] else [p.token,plan.buyToken]
  | _ => [p.token]

end Params
end OrderDesk
