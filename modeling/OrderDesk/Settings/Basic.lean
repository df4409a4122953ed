import OrderDesk.Text.Blank
import OrderDesk.Numeric.Binary64

-- Settings of the engine, all with defaults.
namespace OrderDesk

structure FlowDefaults where
  checkInterval : Binary64
  receiveToken : String
  chainId : String
  version : String
deriving DecidableEq

inductive Backend where
  | memory
  | table
deriving DecidableEq

inductive Level where
  | debug
  | info
  | warning
  | error
  | critical
deriving DecidableEq

structure Monitoring where
  structured : Bool
  logFile : Option String
  level : Level
  webhooks : List String
  webhookVariable : String
deriving DecidableEq

structure Settings where
  autoActivate : Bool
  flow : FlowDefaults
  collectDetails : Bool
  backend : Backend
  path : String
  monitoring : Monitoring
deriving DecidableEq

abbrev Environment := List (String × String)

def Environment.get (env : Environment) (name : String) : String :=
  ((env.find? fun entry => entry.1 == name).map (·.2)).getD ""

namespace FlowDefaults

def standard : FlowDefaults := ⟨30,"USDC","base","1.0.0"⟩

end FlowDefaults

namespace Level

def name : Level → String
  | debug => "DEBUG"
  | info => "INFO"
  | warning => "WARNING"
  | error => "ERROR"
  | critical => "CRITICAL"

def rank : Level → Nat
  | debug => 10
  | info => 20
  | warning => 30
  | error => 40
  | critical => 50

def all : List Level := [debug,info,warning,error,critical]

def names : List (String × Level) := [debug,info,warning,error].map fun level => (level.name,level)

end Level

namespace Monitoring

def standard : Monitoring := ⟨false,none,.info,[],"ORDER_ENGINE_ALERT_WEBHOOK"⟩

-- The listed webhooks, and the one of the environment unless it is listed.
def webhookUrls (m : Monitoring) (env : Environment) : List String :=
  let url := Text.strip (env.get m.webhookVariable)
  if url = "" || m.webhooks.contains url then m.webhooks else m.webhooks ++ [url]

end Monitoring

namespace Settings

def standard : Settings := ⟨true,.standard,true,.table,"order_engine.db",.standard⟩

end Settings
end OrderDesk
