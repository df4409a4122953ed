import OrderDesk.Flow.Check
import OrderDesk.Flow.Draft
import OrderDesk.Numeric.Display
import OrderDesk.Order.State
import OrderDesk.Settings.Basic

-- The flow of an order. There are four shapes: a check that leads to one trade, the same with a mark to refresh
-- before each check, two checks that share one trade, and a loop of partial trades. Checks carry their
-- conditions; nothing is evaluated here.
namespace OrderDesk
namespace Template

-- A text that says something, or the default.
def orDefault (given : Option String) (default : String) : String :=
  match given with
  | none | some "" => default
  | some text => text

-- Nodes. Each has the name of its role as its key unless the shape needs two of a role.

def node (role : Role) (name : String) (data : Fields) : DraftNode := ⟨role.name,role,name,data⟩

def conditionsData (g : Group) : Fields := [("conditions",g.toJson)]

def notice (p : Params) (template : String) : DraftNode :=
  node .notify "Send Notification" [("template",.str template),("channels",.strs p.notifyChannels)]

def done : DraftNode := node .terminal "Done" [("status",.str "completed")]

def wait (seconds : Number) : DraftNode := node .waitTick "Wait For Next Tick" [("intervalSeconds",.ofNumber seconds)]

-- What a trade node is told.

def chainOf (d : FlowDefaults) (p : Params) : Json := .str (orDefault p.chainId d.chainId)

def receiveOf (d : FlowDefaults) (given : Option String) : Json := .str (orDefault given d.receiveToken)

def saleData (d : FlowDefaults) (p : Params) (sale : Sale) : Fields :=
  [("side",.str "sell"),("token",.str p.token),("sellPercent",.float sale.percent),
   ("receiveToken",receiveOf d sale.receiveToken),("chainId",chainOf d p),("guard",.str "once")]

def purchaseData (d : FlowDefaults) (p : Params) (purchase : Purchase) (limits : Fields) (guard : String) : Fields :=
  [("side",.str "buy"),("token",.str p.token),("sellToken",.str purchase.sellToken),
   ("spendAmount",.float purchase.amount)] ++ limits ++ [("chainId",chainOf d p),("guard",.str guard)]

-- Shapes.

def check : String := Role.checkCondition.name
def execute : String := Role.executeTrade.name
def notify : String := Role.notify.name
def waiting : String := Role.waitTick.name
def update : String := Role.updateState.name
def terminal : String := Role.terminal.name

-- Checks until the conditions hold, and trades once.
def singleShot (d : FlowDefaults) (p : Params) (conditions : Group) (trade : Fields)
    (template name description : String) : Draft :=
  ⟨name,description,node .checkCondition "Check Conditions" (conditionsData conditions),
   [node .executeTrade "Execute Trade" trade,notice p template,done,wait (.float d.checkInterval)],
   [⟨check,execute,.onTrue⟩,⟨check,waiting,.onFalse⟩,⟨execute,notify,.always⟩,⟨notify,terminal,.always⟩,
    ⟨waiting,check,.always⟩]⟩

def triggered : Condition := ⟨"trailing.triggered",.equal (.number 1)⟩

-- The extra conditions of the user join the condition of the shape.
def withExtra (own : Condition) (extra : Option Group) : Group := .allOf (.leaf own :: (extra.map Group.node).toList)

def trailing (d : FlowDefaults) (p : Params) (t : TrailingTerms) (name description : String) : Draft :=
  ⟨name,description,
   node .updateState "Refresh High-Water Mark"
     [("operation",.str "refresh-high-water-mark"),("priceField",.str t.priceField)],
   [node .checkCondition "Trailing Stop Triggered?" (conditionsData (withExtra triggered t.activation)),
    node .executeTrade "Execute Trade" (saleData d p t.sale),notice p "trailing-stop-triggered",done,
    wait (.float d.checkInterval)],
   [⟨update,check,.always⟩,⟨check,execute,.onTrue⟩,⟨check,waiting,.onFalse⟩,⟨execute,notify,.always⟩,
    ⟨notify,terminal,.always⟩,⟨waiting,update,.always⟩]⟩

def branchNode (key name branch : String) (leg : Leg) : DraftNode :=
  ⟨key,.checkCondition,name,("branch",.str branch) :: conditionsData leg.conditions⟩

def lowerCheck : String := "check-stop-loss"
def upperCheck : String := "check-take-profit"

-- The lower check comes first; whichever holds leads to the one trade.
def protection (d : FlowDefaults) (p : Params) (lower upper : Leg) (receive : Option String)
    (name description : String) : Draft :=
  ⟨name,description,branchNode lowerCheck "Stop-Loss Check" "stop-loss" lower,
   [branchNode upperCheck "Take-Profit Check" "take-profit" upper,
    node .executeTrade "Execute Protection"
      (("sellPercentByBranch",.obj [("stop-loss",.float lower.percent),("take-profit",.float upper.percent)]) ::
        Fields.erase "sellPercent" (saleData d p ⟨lower.percent,receive⟩)),
    notice p "dual-protection-triggered",done,wait (.float d.checkInterval)],
   [⟨lowerCheck,execute,.onTrue⟩,⟨lowerCheck,upperCheck,.onFalse⟩,⟨upperCheck,execute,.onTrue⟩,
    ⟨upperCheck,waiting,.onFalse⟩,⟨execute,notify,.always⟩,⟨notify,terminal,.always⟩,
    ⟨waiting,lowerCheck,.always⟩]⟩

def due : Condition := ⟨"schedule.secondsUntilDue",.atMost 0⟩
def remaining : Condition := ⟨"schedule.remainingExecutions",.different (.number 0)⟩

def scheduleCheck : String := "check-schedule"
def remainingCheck : String := "check-remaining"
def partialTrade : String := "execute-partial"

-- The wait of a schedule: the shorter of the check interval and its own, if that is not nothing.
def tick (d : FlowDefaults) (interval : Number) : Number :=
  let shorter := (Number.float d.checkInterval).min interval
  if shorter.isZero then .float d.checkInterval else shorter

-- Trades whenever one is due, until none remain. Waiting leads back by way of the remaining count.
def scheduled (d : FlowDefaults) (p : Params) (extra : Option Group) (interval : Number) (trade : Fields)
    (template name description : String) : Draft :=
  ⟨name,description,
   ⟨scheduleCheck,.checkCondition,"Check Schedule",conditionsData (withExtra due extra)⟩,
   [⟨partialTrade,.executeTrade,"Execute Partial",trade⟩,
    node .updateState "Decrement Remaining" [("operation",.str "record-execution")],notice p template,
    ⟨remainingCheck,.checkCondition,"Executions Remaining?",conditionsData (.allOf [.leaf remaining])⟩,done,
    wait (tick d interval)],
   [⟨scheduleCheck,partialTrade,.onTrue⟩,⟨scheduleCheck,waiting,.onFalse⟩,⟨partialTrade,update,.always⟩,
    ⟨update,notify,.always⟩,⟨notify,remainingCheck,.always⟩,⟨remainingCheck,scheduleCheck,.onTrue⟩,
    ⟨remainingCheck,terminal,.onFalse⟩,⟨waiting,remainingCheck,.always⟩]⟩

-- The kinds of order.

def threshold (test : Test) : Group := .allOf [.leaf ⟨"price",test⟩]

def percentOf (sale : Sale) (token : String) : String := s!"Sell {Decimal.compact sale.percent}% of {token}"

def intervalText : Interval → String
  | .hourly => "hourly"
  | .daily => "daily"
  | .weekly => "weekly"
  | .monthly => "monthly"
  | .seconds length => s!"every {Decimal.compact length}s"

def budgetData (budget : Option Binary64) (cooldownMinutes : Binary64) : Fields :=
  [("maxSpendTotal",optFloat budget),("cooldownSeconds",.float (cooldownMinutes * 60))]

-- The draft of some parameters. Only a sliced sale can fail, when its slices are too many to count.
def draft (d : FlowDefaults) (p : Params) : Except Fault Draft :=
  match p.terms with
  | .stopLoss trigger sale =>
    .ok (singleShot d p (threshold (.atMost trigger)) (saleData d p sale) "stop-loss-triggered"
      s!"Stop-Loss - {p.token}" s!"{percentOf sale p.token} when price drops to ${Decimal.compact trigger}")
  | .takeProfit trigger sale =>
    .ok (singleShot d p (threshold (.atLeast trigger)) (saleData d p sale) "take-profit-triggered"
      s!"Take-Profit - {p.token}" s!"{percentOf sale p.token} when price reaches ${Decimal.compact trigger}")
  | .conditionalSell conditions sale =>
    .ok (singleShot d p conditions (saleData d p sale) "conditional-sell-triggered"
      s!"Conditional Sell - {p.token}" s!"{percentOf sale p.token} when conditions are met")
  | .conditionalBuy conditions purchase =>
    .ok (singleShot d p conditions (purchaseData d p purchase [] "once") "conditional-buy-triggered"
      s!"Conditional Buy - {p.token}"
      s!"Buy {p.token} with {Decimal.compact purchase.amount} {purchase.sellToken} when conditions are met")
  | .smartEntry conditions purchase budget cooldownMinutes =>
    .ok (singleShot d p conditions (purchaseData d p purchase (budgetData budget cooldownMinutes) "once")
      "smart-entry-executed" s!"Smart Entry - {p.token}" s!"Buy {p.token} when entry conditions are met")
  | .dca plan =>
    .ok (scheduled d p plan.conditions plan.interval.length (purchaseData d p plan.purchase [] "per-slice") "dca-executed"
      s!"DCA - {p.token}"
      (s!"Buy {Decimal.compact plan.purchase.amount} {plan.purchase.sellToken} worth of {p.token} " ++
        intervalText plan.interval))
  | .twap plan =>
    match plan.sliceAmount?,plan.sliceInterval? with
    | some amount,some interval =>
      .ok (scheduled d p plan.conditions (.float interval)
        [("side",.str "sell"),("token",.str p.token),("amount",.float amount),("receiveToken",.str plan.buyToken),
         ("chainId",chainOf d p),("guard",.str "per-slice")]
        "twap-slice-executed" s!"TWAP - {p.token}"
        (s!"Sell {Decimal.compact plan.total} {p.token} for {plan.buyToken} " ++
          s!"in {plan.slices} slices over {Decimal.compact plan.duration}s"))
    | _,_ => .error .overflow
  | .trailingStop terms =>
    .ok (trailing d p terms s!"Trailing Stop - {p.token}"
      s!"{percentOf terms.sale p.token} with {Decimal.compact terms.trailPercent}% trailing stop")
  | .dualProtection lower upper receive =>
    .ok (protection d p lower upper receive s!"Dual Protection - {p.token}"
      s!"Protect {p.token} with stop-loss and take-profit")

end Template

namespace Flow

def metadataOf (d : FlowDefaults) (owner : Json) (kind : Kind) (entry : String) (now : Timestamp) : Fields :=
  [("orderId",owner),("orderType",.str kind.name),("entry",.str entry),("checkIntervalSeconds",.float d.checkInterval),
   ("generatedAt",.str now.text)]

def ofDraft (d : FlowDefaults) (owner : Json) (kind : Kind) (now : Timestamp) (plan : Draft) : Flow :=
  ⟨idOf owner,plan.name,plan.description,d.version,plan.nodes.map (DraftNode.finish owner),
   plan.links.map (Link.finish owner),metadataOf d owner kind (Draft.nodeId owner plan.first.key) now⟩

-- The flow of an order of a kind. The parameters are checked again before, and the flow after.
def generate (d : FlowDefaults) (owner : Json) (kind : Kind) (p : Params) (now : Timestamp) : Except Fault Flow := do
  let p ← p.recheck kind
  let plan ← Template.draft d p
  let flow := ofDraft d owner kind now plan
  flow.check
  pure flow

end Flow

def Order.flow (o : Order) (d : FlowDefaults) (now : Timestamp) : Except Fault Flow :=
  Flow.generate d o.id o.kind o.params now

end OrderDesk
