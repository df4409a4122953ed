import OrderDesk.Settings.Decode
import OrderDesk.Settings.Variables
import OrderDesk.Yaml.Read

-- Settings from the text of a file. An empty document asks for nothing, so all settings are standard.
namespace OrderDesk.Settings

def ofDocument (document : Yaml) : Except Fault Settings :=
  let value := document.toJson
  if !document.textKeys then .error .wrongKind
  else match value with
    | .obj fields => (ofFields fields).orIssues
    | v => if v.truthy then .error .wrongKind else (ofFields []).orIssues

def load (text : String) : Except Fault Settings := Yaml.read text >>= ofDocument

end OrderDesk.Settings
