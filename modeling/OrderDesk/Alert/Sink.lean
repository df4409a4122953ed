import OrderDesk.Alert.Host
import OrderDesk.Notice.Render

-- Sinks, and what comes of a message at each of them. A sink with channels accepts the messages that share one
-- of them; a sink without accepts all. Whatever happens at one sink, the others are served.
namespace OrderDesk

structure Message where
  event : String
  title : String
  body : String
  orderId : Json
  channels : List String
deriving BEq

def Message.text (m : Message) : String := m.title ++ "\n\n" ++ m.body

def Message.payload (m : Message) : Json :=
  .obj [("text",.str m.text),("event",.str m.event),("orderId",m.orderId),("title",.str m.title),
    ("body",.str m.body)]

def Notice.message (n : Notice) : Message := ⟨n.event.name,n.title,n.body,n.orderId,n.channels⟩

-- Where a sink sends. What may fail is told for the first message, the second, and so on. Failures are exceptions with a text:
-- an interrupt or an exit of the process is not held back anywhere, and is none, nor is an exception that cannot be printed.
-- A custom sink has the channels and the `accepts` of the base class.
inductive Target where
  | console
  | webhook (url : String) (opening : Nat → Option Failure)
  | custom (name : String) (receiving : Nat → Option Failure)

structure Sink where
  target : Target
  channels : Option (List String)

def Sink.accepts (s : Sink) (m : Message) : Bool :=
  match s.channels with
  | none => true
  | some channels => channels.any m.channels.contains

inductive Outcome where
  | arrived
  -- The request was made, but nobody received it.
  | unanswered (f : Failure)
  -- Nothing was sent.
  | failed (f : Failure)
deriving DecidableEq

structure Delivery where
  place : Nat
  target : Target
  message : Message
  outcome : Outcome

-- The address that a URL stands for. It may stand in angle brackets, and may be announced as one.
def bareAddress (url : String) : List Char :=
  let inner := Text.trimBy Text.isBlank url.toList
  let inner := match inner,inner.getLast? with
    | '<' :: rest,some '>' => Text.trimBy Text.isBlank rest.dropLast
    | _,_ => inner
  if inner.take 4 == "URL:".toList then Text.trimBy Text.isBlank (inner.drop 4) else inner

-- A resource, and the part of it after the last number sign.
structure Address where
  resource : List Char
  part : List Char

def Address.ofUrl (url : String) : Address :=
  let chars := bareAddress url
  let part := (chars.reverse.takeWhile (· != '#')).reverse
  if chars.contains '#' then ⟨chars.take (chars.length - part.length - 1),part⟩ else ⟨chars,[]⟩

def Address.text (a : Address) : String :=
  String.ofList (if a.part.isEmpty then a.resource else a.resource ++ '#' :: a.part)

-- A scheme is whatever stands before the first colon, unless a slash comes first.
def Address.hasScheme (a : Address) : Bool :=
  match a.resource.dropWhile fun c => c != '/' && c != ':' with
  | ':' :: _ => a.resource.head? != some ':'
  | _ => false

def isSchemeChar (c : Char) : Bool := c.isAlphanum || c == '+' || c == '-' || c == '.'

-- Control characters and blanks in front do not count where the host is looked for, nor do tabs and line ends.
def Address.shown (a : Address) : List Char :=
  (a.resource.dropWhile fun c => c.toNat ≤ 32).filter fun c => c != '\t' && c != '\n' && c != '\r'

-- The host, where a proper scheme and two slashes stand before it.
def Address.host (a : Address) : List Char :=
  let scheme := a.shown.takeWhile (· != ':')
  match a.shown.drop (scheme.length + 1) with
  | '/' :: '/' :: rest =>
    if scheme.head?.any Char.isAlpha && scheme.all isSchemeChar then
      rest.takeWhile fun c => c != '/' && c != '?' && c != '#'
    else []
  | _ => []

def Address.problem? (a : Address) : Option Failure :=
  if !a.hasScheme then some ⟨"ValueError","unknown url type: " ++ Text.quoted a.text⟩ else Host.problem? a.host

namespace Target

def name : Target → String
  | console => "ConsoleAlertSink"
  | webhook .. => "WebhookAlertSink"
  | custom name _ => name

def outcome (turn : Nat) : Target → Outcome
  | console => .arrived
  | webhook url opening =>
    match (Address.ofUrl url).problem?,opening turn with
    | some f,_ => .failed f
    | none,some f => .unanswered f
    | none,none => .arrived
  | custom _ receiving =>
    match receiving turn with
    | none => .arrived
    | some f => .failed f

end Target

structure Post where
  url : String
  payload : Json
deriving BEq

namespace Delivery

def counted (d : Delivery) : Bool :=
  match d.outcome with
  | .failed _ => false
  | _ => true

def arrived (d : Delivery) : Bool := d.outcome == .arrived

def logger : String := "order_engine.monitoring.alerts"

def entry? (d : Delivery) : Option Entry :=
  match d.target,d.outcome with
  | .console,.arrived =>
    some ((Entry.plain .warning logger s!"[ALERT] {d.message.title}: {d.message.body}").aboutOrder d.message.orderId)
  | .webhook url _,.unanswered f =>
    some ((Entry.plain .error logger s!"Failed to send webhook alert to {url}").because f.text)
  | target,.failed f => some ((Entry.plain .error logger s!"Alert sink {target.name} failed").because f.text)
  | _,_ => none

-- The request that was opened, answered or not.
def post? (d : Delivery) : Option Post :=
  match d.target,d.outcome with
  | .webhook _ _,.failed _ => none
  | .webhook url _,_ => some ⟨(Address.ofUrl url).text,d.message.payload⟩
  | _,_ => none

end Delivery

-- What a send does before it ends, also where it ends by raising.
structure Trace where
  opened : List Post
  arrived : Bool
  logged : List Entry

def Trace.idle : Trace := ⟨[],false,[]⟩

abbrev Attempt := ExceptT Failure (StateM Trace)

namespace Attempt

def arrive : Attempt Unit := modify fun t => {t with arrived := true}

def log (e : Entry) : Attempt Unit := modify fun t => {t with logged := t.logged ++ [e]}

def post (p : Post) (failure : Option Failure) : Attempt Unit := do
  modify fun t => {t with opened := t.opened ++ [p]}
  match failure with
  | some f => throw f
  | none => arrive

end Attempt

namespace Target

-- A request is built outside of the webhook's own handler: a failure to build it is raised, a failure to open it is not.
def send (turn : Nat) (m : Message) : Target → Attempt Unit
  | console => do
    Attempt.log ((Entry.plain .warning Delivery.logger s!"[ALERT] {m.title}: {m.body}").aboutOrder m.orderId)
    Attempt.arrive
  | webhook url opening =>
    match (Address.ofUrl url).problem? with
    | some f => throw f
    | none =>
      tryCatch (Attempt.post ⟨(Address.ofUrl url).text,m.payload⟩ (opening turn)) fun f =>
        Attempt.log ((Entry.plain .error Delivery.logger s!"Failed to send webhook alert to {url}").because f.text)
  | custom _ receiving =>
    match receiving turn with
    | some f => throw f
    | none => Attempt.arrive

end Target

-- A program that may raise, and keeps what it has sent either way.
abbrev Sending := ExceptT Failure (StateM (List Delivery))

namespace Sink

-- The send is on record before it can fail.
def send (s : Sink) (turn : Nat) (m : Message) (place : Nat) : Sending Unit := do
  modify (· ++ [⟨place,s.target,m,s.target.outcome turn⟩])
  match s.target.outcome turn with
  | .failed f => throw f
  | _ => pure ()

-- One message to each sink in turn, counting those that took it.
def alertFrom (turn : Nat) (m : Message) : Nat → List Sink → Nat → Sending Nat
  | _,[],count => pure count
  | place,s :: rest,count => do
    if s.accepts m then
      let count ← tryCatch (do s.send turn m place; pure (count + 1)) fun _ => pure count
      alertFrom turn m (place + 1) rest count
    else alertFrom turn m (place + 1) rest count

def alert (sinks : List Sink) (turn : Nat) (m : Message) : Sending Nat := alertFrom turn m 0 sinks 0

def alertAll (sinks : List Sink) : Nat → List Message → Sending (List Nat)
  | _,[] => pure []
  | turn,m :: rest => do
    let count ← alert sinks turn m
    let counts ← alertAll sinks (turn + 1) rest
    pure (count :: counts)

end Sink

-- Sends one message to every sink that accepts it, in order.
def deliverFrom (turn : Nat) (m : Message) : Nat → List Sink → List Delivery
  | _,[] => []
  | place,s :: rest =>
    if s.accepts m then ⟨place,s.target,m,s.target.outcome turn⟩ :: deliverFrom turn m (place + 1) rest
    else deliverFrom turn m (place + 1) rest

def deliver (sinks : List Sink) (turn : Nat) (m : Message) : List Delivery := deliverFrom turn m 0 sinks

def delivered (deliveries : List Delivery) : Nat := deliveries.countP Delivery.counted

abbrev Network := String → Nat → Option Failure

-- The sinks that settings ask for: the console, and every webhook.
def Monitoring.sinks (m : Monitoring) (env : Environment) (network : Network) : List Sink :=
  ⟨.console,none⟩ :: (m.webhookUrls env).map fun url => ⟨.webhook url (network url),none⟩

end OrderDesk
