import OrderDesk.Notice.Event

-- The wording of notices: a title, and lines of text with slots for values.
namespace OrderDesk

inductive Slot where
  | orderId
  | orderType
  | status
  | token
  | error
  | triggerValue
  | sellPercent
  | receiveToken
  | conditionSummary
  | sellToken
  | spendAmount
  | maxSpendTotal
  | interval
  | soldAmount
  | receivedAmount
  | boughtAmount
  | txHash
  | metConditions
  | executionsDone
  | remainingExecutions
  | nextExecution
  | highPrice
  | trailPercent
  | currentPrice
deriving DecidableEq

def Slot.name : Slot → String
  | orderId => "order_id"
  | orderType => "order_type"
  | status => "status"
  | token => "token"
  | error => "error"
  | triggerValue => "trigger_value"
  | sellPercent => "sell_percent"
  | receiveToken => "receive_token"
  | conditionSummary => "condition_summary"
  | sellToken => "sell_token"
  | spendAmount => "spend_amount"
  | maxSpendTotal => "max_spend_total"
  | interval => "interval"
  | soldAmount => "sold_amount"
  | receivedAmount => "received_amount"
  | boughtAmount => "bought_amount"
  | txHash => "tx_hash"
  | metConditions => "met_conditions"
  | executionsDone => "executions_done"
  | remainingExecutions => "remaining_executions"
  | nextExecution => "next_execution"
  | highPrice => "high_price"
  | trailPercent => "trail_percent"
  | currentPrice => "current_price"

inductive Piece where
  | text (s : String)
  | slot (s : Slot)
deriving DecidableEq

instance : Coe String Piece := ⟨.text⟩
instance : Coe Slot Piece := ⟨.slot⟩

structure Wording where
  title : String
  lines : List (List Piece)

namespace Wording

open Slot

def typeLine : List Piece := ["Type: ",orderType]
def tokenLine : List Piece := ["Token: ",token]
def soldLine : List Piece := ["Sold: ",soldAmount," ",token]
def receivedLine : List Piece := ["Received: ",receivedAmount," ",receiveToken]
def txLine : List Piece := ["TX: ",txHash]
def metLines (rest : List (List Piece)) : List (List Piece) := ["Met conditions:"] :: [metConditions] :: [] :: rest
def priceLine : List Piece := ["Price: $",currentPrice]
def saleLine : List Piece := ["Action: sell ",sellPercent,"% -> ",receiveToken]

-- A first line, and the others after an empty one.
def stated (title : String) (first : List Piece) (lines : List (List Piece)) : Wording := ⟨title,first :: [] :: lines⟩

def ofEvent : Event → Wording
  | .stopLossCreated =>
    stated "Stop-Loss Created" ["Stop-loss armed for ",token,"."]
      [["Trigger: price drops to $",triggerValue],saleLine]
  | .stopLossTriggered =>
    stated "Stop-Loss Triggered" ["Stop-loss executed for ",token,"."]
      [["Condition: ",conditionSummary],["Trigger price: $",triggerValue],soldLine,receivedLine,txLine]
  | .takeProfitCreated =>
    stated "Take-Profit Created" ["Take-profit armed for ",token,"."]
      [["Trigger: price rises to $",triggerValue],saleLine]
  | .takeProfitTriggered =>
    stated "Take-Profit Triggered" ["Take-profit executed for ",token,"."]
      [["Condition: ",conditionSummary],["Trigger price: $",triggerValue],soldLine,receivedLine,txLine]
  | .conditionalSellTriggered =>
    stated "Conditional Sell Triggered" ["Conditional sell executed for ",token,"."]
      (metLines [soldLine,receivedLine,txLine])
  | .conditionalBuyTriggered =>
    stated "Conditional Buy Triggered" ["Conditional buy executed."]
      (metLines [["Bought: ",boughtAmount," ",token],["Spent: ",spendAmount," ",sellToken],txLine])
  | .smartEntryCreated =>
    stated "Smart Entry Active" ["Monitoring smart entry for ",token,"."]
      [["Conditions: ",conditionSummary],["Purchase amount: ",spendAmount," ",sellToken],
       ["Max total: ",maxSpendTotal]]
  | .smartEntryExecuted =>
    stated "Smart Entry Purchase" ["Conditions met, purchase executed."]
      (tokenLine :: metLines [["Bought: ",boughtAmount," (",spendAmount," ",sellToken,")"]])
  | .dcaCreated =>
    stated "DCA Started" ["DCA strategy active for ",token,"."]
      [["Amount: ",spendAmount," ",sellToken," / ",interval]]
  | .dcaExecuted =>
    stated "DCA Purchase Completed" ["Periodic DCA purchase executed."]
      [["This time: ",boughtAmount," ",token," (",spendAmount," ",sellToken,")"],
       ["Executions done: ",executionsDone],["Next: ",nextExecution]]
  | .twapSliceExecuted =>
    stated "TWAP Slice Sold" ["TWAP strategy in progress."]
      [["This slice: ",soldAmount," ",token],receivedLine,["Slices remaining: ",remainingExecutions]]
  | .twapCompleted =>
    stated "TWAP Completed" ["TWAP strategy completed."]
      [["Total sold: ",soldAmount," ",token],["Total received: ",receivedAmount," ",receiveToken]]
  | .trailingStopTriggered =>
    stated "Trailing Stop Triggered" ["Trailing stop executed for ",token,"."]
      [["Highest price: $",highPrice],["Trigger price: $",triggerValue," (",trailPercent,"% drop)"],soldLine,txLine]
  | .trailingStopUpdated =>
    stated "Trailing Stop Updated" [token," reached a new high."]
      [["New high: $",highPrice],["New trigger: $",triggerValue],["Trail: ",trailPercent,"%"]]
  | .dualProtectionTriggered =>
    stated "Dual Protection Triggered" ["Protection executed for ",token,"."] [priceLine,soldLine,txLine]
  | .lowerTriggered =>
    stated "Dual Protection - Stop-Loss" ["Stop-loss triggered for ",token,"."] [priceLine,soldLine,txLine]
  | .upperTriggered =>
    stated "Dual Protection - Take-Profit" ["Take-profit triggered for ",token,"."] [priceLine,soldLine,txLine]
  | .orderCreated => stated "Order Created" ["New order."] [typeLine,tokenLine,["Status: ",status]]
  | .orderActivated => stated "Order Active" ["Order is now monitored."] [typeLine,tokenLine]
  | .orderTriggered => stated "Order Triggered" ["Order conditions met, executing."] [typeLine,tokenLine]
  | .orderCancelled => stated "Order Cancelled" ["Order cancelled."] [typeLine,tokenLine]
  | .orderPaused => stated "Order Paused" ["Order paused."] [typeLine,tokenLine,["To resume: resume ",orderId]]
  | .orderResumed => stated "Order Resumed" ["Order is active again."] [typeLine,tokenLine]
  | .orderFailed => stated "Order Failed" ["Order could not be executed."] [typeLine,tokenLine,["Error: ",error]]
  | .orderCompleted => stated "Order Completed" ["Order completed successfully."] [typeLine,tokenLine]

end Wording
end OrderDesk
