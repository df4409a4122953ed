import OrderDesk.Fault
import OrderDesk.Settings.Basic
import OrderDesk.Validation.Fields

-- Settings as a record. Sections and fields may be left out; fields that are not known are ignored.
namespace OrderDesk

open Checked Validation

namespace FlowDefaults

def ofFields (fields : Fields) : Checked FlowDefaults :=
  FlowDefaults.mk <$> given (.ofName "check_interval") standard.checkInterval positive fields
    <*> given (.ofName "default_receive_token") standard.receiveToken text fields
    <*> given (.ofName "default_chain_id") standard.chainId text fields
    <*> given (.ofName "flow_version") standard.version text fields

def toJson (d : FlowDefaults) : Json :=
  .obj [("check_interval",.float d.checkInterval),("default_receive_token",.str d.receiveToken),
    ("default_chain_id",.str d.chainId),("flow_version",.str d.version)]

end FlowDefaults

namespace Backend

def names : List (String × Backend) := [("memory",memory),("sqlite",table)]

def name : Backend → String
  | memory => "memory"
  | table => "sqlite"

end Backend

namespace Monitoring

def ofFields (fields : Fields) : Checked Monitoring :=
  Monitoring.mk <$> given (.ofName "structured_logging") standard.structured truth fields
    <*> given (.ofName "log_file") standard.logFile (optional text) fields
    <*> given (.ofName "log_level") standard.level (oneOf Level.names) fields
    <*> given (.ofName "alert_webhooks") standard.webhooks (list text) fields
    <*> given (.ofName "alert_webhook_env") standard.webhookVariable text fields

def toJson (m : Monitoring) : Json :=
  .obj [("structured_logging",.bool m.structured),("log_file",.optStr m.logFile),("log_level",.str m.level.name),
    ("alert_webhooks",.strs m.webhooks),("alert_webhook_env",.str m.webhookVariable)]

end Monitoring

namespace Settings

def storageOf (fields : Fields) : Checked (Backend × String) :=
  zipWith Prod.mk (given (.ofName "backend") standard.backend (oneOf Backend.names) fields)
    (given (.ofName "path") standard.path text fields)

def evaluatorOf (fields : Fields) : Checked Bool :=
  given (.ofName "collect_details") standard.collectDetails truth fields

def ofFields (fields : Fields) : Checked Settings :=
  (fun active flow details storage monitoring => ⟨active,flow,details,storage.1,storage.2,monitoring⟩)
    <$> given (.ofName "auto_activate") standard.autoActivate truth fields
    <*> given (.ofName "flow_generator") FlowDefaults.standard (record "FlowGeneratorConfig" FlowDefaults.ofFields) fields
    <*> given (.ofName "evaluator") standard.collectDetails (record "EvaluatorConfig" evaluatorOf) fields
    <*> given (.ofName "storage") (standard.backend,standard.path) (record "StorageConfig" storageOf) fields
    <*> given (.ofName "monitoring") Monitoring.standard (record "MonitoringConfig" Monitoring.ofFields) fields

def toJson (s : Settings) : Json :=
  .obj [("auto_activate",.bool s.autoActivate),("flow_generator",s.flow.toJson),
    ("evaluator",.obj [("collect_details",.bool s.collectDetails)]),
    ("storage",.obj [("backend",.str s.backend.name),("path",.str s.path)]),("monitoring",s.monitoring.toJson)]

end Settings
end OrderDesk
