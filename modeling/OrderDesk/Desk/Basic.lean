import OrderDesk.Alert.Sink
import OrderDesk.Desk.Runtime
import OrderDesk.Flow.Template
import OrderDesk.Store.Basic

-- The desk: settings, the stored orders, the runtime, the sinks, a clock, a supply of ids, and a journal of all
-- that happened. Log entries, notices and requests to a runtime elsewhere are views of the journal.
namespace OrderDesk

inductive Alarm where
  | none
  -- Sending anything fails.
  | broken (message : String)
  | sinks (sinks : List Sink)

inductive Happening where
  | logged (e : Entry)
  | told (m : Message) (deliveries : List Delivery)
  | asked (cancel : Bool) (flowId : Json)

structure Desk where
  settings : Settings
  storage : Storage
  runtime : Runtime
  alarm : Alarm
  clock : Timestamp
  ids : List String
  -- How many ids were made beyond the given ones.
  made : Nat
  -- How many requests a runtime elsewhere has had.
  requests : Nat
  -- How many notices the sinks have had.
  notices : Nat
  journal : List Happening

namespace Happening

def deliveries : Happening → List Delivery
  | told _ deliveries => deliveries
  | _ => []

-- Sinks log too.
def entries : Happening → List Entry
  | logged e => [e]
  | told _ deliveries => deliveries.filterMap Delivery.entry?
  | asked .. => []

def posts : Happening → List Post
  | told _ deliveries => deliveries.filterMap Delivery.post?
  | _ => []

def message? : Happening → Option Message
  | told m _ => some m
  | _ => none

def request? : Happening → Option (Bool × Json)
  | asked cancel flowId => some (cancel,flowId)
  | _ => none

end Happening

namespace Desk

def entries (d : Desk) : List Entry := d.journal.flatMap Happening.entries

def messages (d : Desk) : List Message := d.journal.filterMap Happening.message?

-- The requests to a runtime elsewhere; the flag tells cancelling from registering.
def requested (d : Desk) : List (Bool × Json) := d.journal.filterMap Happening.request?

def log (d : Desk) (e : Entry) : Desk := {d with journal := d.journal ++ [.logged e]}

def logAll (d : Desk) (entries : List Entry) : Desk := entries.foldl log d

-- The given ids first, then numbered ones.
def nextId (d : Desk) : String × Desk :=
  match d.ids with
  | id :: ids => (id,{d with ids})
  | [] => (s!"order_{d.made + 1}",{d with made := d.made + 1})

-- Loggers.

def logger : String := "order_engine.templates"
def flowLogger : String := "order_engine.flow_generator"
def runtimeLogger : String := "order_engine.runtime"

def orderEntry (level : Level) (id : Json) (message : String) : Entry := (Entry.plain level logger message).aboutOrder id

-- The text of a failure in a log entry.
def failureText : Fault → String
  | .raised kind message => (⟨kind,message⟩ : Failure).text
  | fault => fault.message

-- The notice of an event of an order. That a notice cannot be sent is logged, and nothing else.
def tell (d : Desk) (o : Order) (event : Event) : Desk :=
  let failed (text : String) : Desk :=
    d.log ((orderEntry .error o.id s!"Failed to send {event.name} notification").because text)
  match d.alarm with
  | .none => d
  | alarm =>
    match Notice.render event o [] with
    | .error fault => failed (failureText fault)
    | .ok n =>
      match alarm with
      | .none => d
      | .broken message => failed message
      | .sinks sinks =>
        {d with
          notices := d.notices + 1
          journal := d.journal ++ [.told n.message (deliver sinks d.notices n.message)]}

-- The runtime.

-- A runtime that fails may take an order with it.
def answered (d : Desk) (orderId : Json) (reply : Reply) : Desk :=
  match reply with
  | .failed _ true => {d with storage := (d.storage.delete orderId).1}
  | _ => d

def register (d : Desk) (owner : Json) (f : Flow) : Desk × Reply :=
  match d.runtime with
  | .none => (d,.accepted)
  | .registry r =>
    (({d with runtime := .registry (r.register f)}).log
      ((Entry.plain .debug runtimeLogger s!"Registered flow {f.id}").aboutFlow (.str f.id)),.accepted)
  | .remote r =>
    let reply := r.registering d.requests
    (answered {d with requests := d.requests + 1,journal := d.journal ++ [.asked false (.str f.id)]} owner reply,reply)

def stop (d : Desk) (owner flowId : Json) : Desk × Reply :=
  match d.runtime with
  | .none => (d,.accepted)
  | .registry r =>
    let (r,reply) := r.cancelBy flowId
    let d := {d with runtime := .registry r}
    match reply with
    | .accepted =>
      (d.log ((Entry.plain .debug runtimeLogger s!"Cancelled flow {flowId.display}").aboutFlow flowId),reply)
    | _ => (d,reply)
  | .remote r =>
    let reply := r.cancelling d.requests
    (answered {d with requests := d.requests + 1,journal := d.journal ++ [.asked true flowId]} owner reply,reply)

end Desk
end OrderDesk
