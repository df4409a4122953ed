import OrderDesk.Json.Shown

-- The nine kinds of order.
namespace OrderDesk

inductive Kind where
  | stopLoss
  | takeProfit
  | conditionalSell
  | conditionalBuy
  | smartEntry
  | dca
  | twap
  | trailingStop
  | dualProtection
deriving DecidableEq

namespace Kind

def all : List Kind :=
  [stopLoss,takeProfit,conditionalSell,conditionalBuy,smartEntry,dca,twap,trailingStop,dualProtection]

def name : Kind → String
  | stopLoss => "stop-loss"
  | takeProfit => "take-profit"
  | conditionalSell => "conditional-sell"
  | conditionalBuy => "conditional-buy"
  | smartEntry => "smart-entry"
  | dca => "dca"
  | twap => "twap"
  | trailingStop => "trailing-stop"
  | dualProtection => "dual-protection"

def ofJson? (v : Json) : Option Kind := v.str?.bind fun s => all.find? fun kind => kind.name == s

def request (v : Json) : Except Fault Kind :=
  match ofJson? v with
  | some kind => .ok kind
  | none => v.shownQuoted.bind fun text => .error (.invalid "type" ("unsupported order type " ++ text))

def stored (v : Json) : Except Fault Kind :=
  match ofJson? v with
  | some kind => .ok kind
  | none => v.shownQuoted.bind fun text => .error (.badValue (text ++ " is not a valid OrderType"))

end Kind
end OrderDesk
