import OrderDesk.Console.Words
import OrderDesk.Desk.Task
import OrderDesk.Json.Read
import OrderDesk.Text.Numerals
import OrderDesk.Text.Path

-- The commands of the console, read from the words of a command line.
namespace OrderDesk

-- Where the settings are, and the table of orders if not where the settings say.
structure Place where
  settings : String
  table : Option String
deriving DecidableEq

inductive Command where
  | version
  | help
  | task (place : Place) (t : Task)
  -- Asks the conditions in one file about the snapshot in another.
  | evaluate (settings conditions snapshot : String) (detailed : Bool)

inductive Misuse where
  | unreadable
  | refused (message : String)
deriving DecidableEq

namespace Command

def paths : Command → List String
  | version | help => []
  | task place _ => [place.settings,Path.beside place.settings ".env"]
  | evaluate settings conditions snapshot _ =>
    [settings,Path.beside settings ".env",conditions,snapshot]

def helpSwitch : CommandOption := ⟨"help",none,false⟩
def settingsOption : CommandOption := ⟨"config",some 'c',true⟩
def placeOptions : List CommandOption := [settingsOption,⟨"db",none,true⟩,helpSwitch]
def createOptions : List CommandOption := ⟨"params",some 'p',true⟩ :: placeOptions
def listOptions : List CommandOption :=
  [⟨"status",some 's',true⟩,⟨"type",some 't',true⟩,⟨"token",none,true⟩,⟨"limit",none,true⟩,
   ⟨"offset",none,true⟩] ++ placeOptions
def evaluateOptions : List CommandOption := [⟨"details",none,false⟩,settingsOption,helpSwitch]
def outerOptions : List CommandOption := [⟨"version",some 'V',false⟩,helpSwitch]

def settingsPath (w : Words) : String := Path.normal (w.valueOr "config" "config.yaml")

def place (w : Words) : Place := ⟨settingsPath w,(w.value? "db").map Path.normal⟩

def withWords (options : List CommandOption) (words : List String) (read : Words → Except Misuse Command) :
    Except Misuse Command :=
  match Words.read options true words with
  | none => .error .unreadable
  | some w => if w.has "help" then .ok .help else read w

def aboutOrder (task : String → Task) (words : List String) : Except Misuse Command :=
  withWords placeOptions words fun w =>
    match w.plain with
    | [id] => .ok (.task (place w) (task id))
    | _ => .error .unreadable

def create (words : List String) : Except Misuse Command :=
  withWords createOptions words fun w =>
    match w.plain,w.value? "params" with
    | [kind],some params =>
      match Json.read params with
      | .ok v => .ok (.task (place w) (.create kind v))
      | .error e => .error (.refused ("--params is not valid JSON: " ++ e.message params))
    | _,_ => .error .unreadable

def number (name : String) (w : Words) : Except Misuse (Option Int) :=
  match w.value? name with
  | none => .ok none
  | some text =>
    match Text.readInt? text with
    | some n => .ok (some n)
    | none => .error .unreadable

def named (read : Json → Except Fault α) : List String → Except Misuse (List α)
  | [] => .ok []
  | name :: rest =>
    match read (.str name) with
    | .ok a => (named read rest).map (a :: ·)
    | .error fault => .error (.refused fault.message)

def list (words : List String) : Except Misuse Command :=
  withWords listOptions words fun w => do
    let limit ← number "limit" w
    let offset ← number "offset" w
    unless w.plain.isEmpty do throw .unreadable
    let statuses ← named Status.stored (w.values "status")
    let kinds ← named Kind.stored (w.values "type")
    pure (.task (place w) (.list ⟨statuses,kinds,(w.values "token").map .str⟩ ⟨offset.getD 0,limit⟩))

def stats (words : List String) : Except Misuse Command :=
  withWords placeOptions words fun w =>
    if w.plain.isEmpty then .ok (.task (place w) .stats) else .error .unreadable

def evaluation (words : List String) : Except Misuse Command :=
  withWords evaluateOptions words fun w =>
    match w.plain with
    | [conditions,snapshot] =>
      .ok (.evaluate (settingsPath w) (Path.normal conditions) (Path.normal snapshot) (w.has "details"))
    | _ => .error .unreadable

def readers : List (String × (List String → Except Misuse Command)) :=
  [("create",create),("list",list),("show",aboutOrder .order),("flow",aboutOrder .flow),("stats",stats),
   ("evaluate",evaluation)] ++ Verb.all.map fun verb => (verb.name,aboutOrder (.move verb))

-- What the options before the command ask for, the first of them first.
def outer? (w : Words) : Option Command :=
  match w.given with
  | [] => none
  | ("version",_) :: _ => some version
  | _ => some help

def read (words : List String) : Except Misuse Command :=
  match Words.read outerOptions false words with
  | none => .error .unreadable
  | some w =>
    match outer? w,w.plain with
    | some command,_ => .ok command
    | none,[] => .error .unreadable
    | none,name :: rest =>
      match readers.find? fun reader => reader.1 == name with
      | some (_,reader) => reader rest
      | none =>
        -- after two dashes, options of the console may still stand for the command
        match (Words.read outerOptions false w.plain).bind outer? with
        | some command => .ok command
        | none => .error .unreadable

end Command
end OrderDesk
