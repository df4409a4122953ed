import OrderDesk.Calendar.Span
import OrderDesk.Json.Write
import OrderDesk.Settings.Basic

-- Log entries. An entry is written as one line of JSON: moment, level, logger and message, then the order or
-- flow it is about, and the failure behind it, where there are any.
namespace OrderDesk

structure Failure where
  kind : String
  message : String
deriving DecidableEq

def Failure.text (f : Failure) : String := if f.message = "" then f.kind else f.kind ++ ": " ++ f.message

structure Entry where
  level : Level
  logger : String
  message : String
  orderId : Json
  flowId : Json
  failure : Option String
deriving BEq

namespace Entry

def plain (level : Level) (logger message : String) : Entry := ⟨level,logger,message,.null,.null,none⟩

def aboutOrder (e : Entry) (id : Json) : Entry := {e with orderId := id}

def aboutFlow (e : Entry) (id : Json) : Entry := {e with flowId := id}

def because (e : Entry) (text : String) : Entry := {e with failure := some text}

-- What an entry is about is written only where it names something.
def contextFields (e : Entry) : Fields :=
  [("order_id",e.orderId),("flow_id",e.flowId)].filter fun field => field.2.truthy

def failureFields (e : Entry) : Fields := (e.failure.map fun text => ("exception",Json.str text)).toList

def fields (e : Entry) : Fields :=
  [("level",.str e.level.name),("logger",.str e.logger),("message",.str e.message)] ++ e.contextFields ++
    e.failureFields

def line (e : Entry) (time : Timestamp) : String := (Json.obj (("timestamp",.str time.text) :: e.fields)).compact

end Entry
end OrderDesk
