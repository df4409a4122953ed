import OrderDesk.Order.Kind
import OrderDesk.Order.Status

-- What orders tell about: the events, and the event of a status change.
namespace OrderDesk

inductive Event where
  | stopLossCreated
  | stopLossTriggered
  | takeProfitCreated
  | takeProfitTriggered
  | conditionalSellTriggered
  | conditionalBuyTriggered
  | smartEntryCreated
  | smartEntryExecuted
  | dcaCreated
  | dcaExecuted
  | twapSliceExecuted
  | twapCompleted
  | trailingStopTriggered
  | trailingStopUpdated
  | dualProtectionTriggered
  | lowerTriggered
  | upperTriggered
  | orderCreated
  | orderActivated
  | orderTriggered
  | orderCancelled
  | orderPaused
  | orderResumed
  | orderFailed
  | orderCompleted
deriving DecidableEq

namespace Event

def all : List Event :=
  [stopLossCreated,stopLossTriggered,takeProfitCreated,takeProfitTriggered,conditionalSellTriggered,
   conditionalBuyTriggered,smartEntryCreated,smartEntryExecuted,dcaCreated,dcaExecuted,twapSliceExecuted,
   twapCompleted,trailingStopTriggered,trailingStopUpdated,dualProtectionTriggered,lowerTriggered,upperTriggered,
   orderCreated,orderActivated,orderTriggered,orderCancelled,orderPaused,orderResumed,orderFailed,orderCompleted]

def name : Event → String
  | stopLossCreated => "stop-loss-created"
  | stopLossTriggered => "stop-loss-triggered"
  | takeProfitCreated => "take-profit-created"
  | takeProfitTriggered => "take-profit-triggered"
  | conditionalSellTriggered => "conditional-sell-triggered"
  | conditionalBuyTriggered => "conditional-buy-triggered"
  | smartEntryCreated => "smart-entry-created"
  | smartEntryExecuted => "smart-entry-executed"
  | dcaCreated => "dca-created"
  | dcaExecuted => "dca-executed"
  | twapSliceExecuted => "twap-slice-executed"
  | twapCompleted => "twap-completed"
  | trailingStopTriggered => "trailing-stop-triggered"
  | trailingStopUpdated => "trailing-stop-updated"
  | dualProtectionTriggered => "dual-protection-triggered"
  | lowerTriggered => "dual-protection-sl-triggered"
  | upperTriggered => "dual-protection-tp-triggered"
  | orderCreated => "order-created"
  | orderActivated => "order-activated"
  | orderTriggered => "order-triggered"
  | orderCancelled => "order-cancelled"
  | orderPaused => "order-paused"
  | orderResumed => "order-resumed"
  | orderFailed => "order-failed"
  | orderCompleted => "order-completed"

def ofName? (name : String) : Option Event := all.find? fun event => event.name == name

def ofCreation : Kind → Event
  | .stopLoss => stopLossCreated
  | .takeProfit => takeProfitCreated
  | .smartEntry => smartEntryCreated
  | .dca => dcaCreated
  | _ => orderCreated

-- The branch that fired tells the two sides of a dual protection apart.
def ofTrigger (kind : Kind) (branch : Option String) : Event :=
  match kind,branch with
  | .dualProtection,none | .dualProtection,some "" => dualProtectionTriggered
  | .dualProtection,some branch => if branch = "stop-loss" then lowerTriggered else upperTriggered
  | .stopLoss,_ => stopLossTriggered
  | .takeProfit,_ => takeProfitTriggered
  | .conditionalSell,_ => conditionalSellTriggered
  | .conditionalBuy,_ => conditionalBuyTriggered
  | .trailingStop,_ => trailingStopTriggered
  | _,_ => orderTriggered

def ofStatus (kind : Kind) (status : Status) (previous : Option Status) (branch : Option String) : Event :=
  match status with
  | .created => ofCreation kind
  | .active => if previous = some .paused then orderResumed else orderActivated
  | .paused => orderPaused
  | .triggered => ofTrigger kind branch
  | .completed => if kind = .twap then twapCompleted else orderCompleted
  | .failed => orderFailed
  | .cancelled => orderCancelled

def ofSlice (kind : Kind) : Event := if kind = .twap then twapSliceExecuted else dcaExecuted

end Event
end OrderDesk
