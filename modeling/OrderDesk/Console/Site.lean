import OrderDesk.Console.Command
import OrderDesk.Console.Screen
import OrderDesk.Journal.Recorder
import OrderDesk.Settings.Load

-- Where commands run: files, tables of orders, logs, a clock and a supply of ids. A command leaves behind the
-- tables, the logs and the ids it used; all else it needs is made anew for it.
namespace OrderDesk

structure Site where
  -- The text of every file, by its normal path.
  files : List (String × String)
  -- Folders that need not hold any of these files.
  folders : List String
  tables : List (String × List Row)
  recorder : Recorder
  environment : Environment
  network : Network
  clock : Timestamp
  ids : List String
  made : Nat

structure Turn where
  screen : Screen
  posts : List Post
  entries : List Entry

inductive Found where
  | nothing
  | folder
  | text (content : String)

inductive Keeping where
  -- Gone when the command ends.
  | unkept (store : Store)
  | kept (path : String)

namespace Site

def paths (s : Site) : List String := s.files.map (·.1) ++ s.tables.map (·.1) ++ s.recorder.files.map (·.1)

def isFolder (s : Site) (path : String) : Bool :=
  path == "." || s.folders.contains path || s.paths.any (Path.isInside path)

def find (s : Site) (path : String) : Found :=
  match s.files.find? fun file => file.1 == path with
  | some (_,content) => .text content
  | none => if s.isFolder path then .folder else .nothing

def readText (s : Site) (path : String) : Except Fault String :=
  match s.find path with
  | .text content => .ok content
  | .folder => .error (.raised "IsADirectoryError" "Is a directory")
  | .nothing => .error (.raised "FileNotFoundError" "No such file or directory")

def exists? (s : Site) (path : String) : Bool :=
  match s.find path with
  | .nothing => false
  | _ => true

-- Settings, and the environment with the variables of the file beside them. Missing settings are standard.
def settings (s : Site) (path : String) : Except Fault (Settings × Environment) :=
  if s.exists? path then do
    let text ← s.readText path
    let environment := match s.find (Path.beside path ".env") with
      | .text content => Variables.read content s.environment
      | _ => s.environment
    pure (← Settings.load text,environment)
  else pure (.standard,s.environment)

-- The path of a table in a file, as it is opened. A nameless table and one in memory are not kept.
def tableAt (s : Site) (path : String) : Except Fault Keeping :=
  let place := Path.normal path
  if path = "" || path = ":memory:" then .ok (.unkept (.table []))
  else if s.isFolder place || !s.isFolder (Path.folder place) && Path.root place = "" then
    .error (.raised "OperationalError" "unable to open database file")
  else match s.find place with
    | .text content =>
      if content = "" then .ok (.kept place) else .error (.raised "DatabaseError" "file is not a database")
    | _ => .ok (.kept place)

def keeping (s : Site) (settings : Settings) (table : Option String) : Except Fault Keeping :=
  match table,settings.backend with
  | some path,_ => s.tableAt path
  | none,.table => s.tableAt settings.path
  | none,.memory => .ok (.unkept (.memory []))

-- The path of the table that a place stands for, if its table is kept in a file at all.
def tablePath? (s : Site) (place : Place) : Option String :=
  match place.table,s.settings place.settings with
  | some path,_ => some path
  | none,.ok (settings,_) => if settings.backend = .table then some (Path.normal settings.path) else none
  | none,.error _ => none

def rows (s : Site) (path : String) : List Row := ((s.tables.find? fun table => table.1 == path).map (·.2)).getD []

def storeOf (s : Site) : Keeping → Store
  | .unkept store => store
  | .kept path => .table (s.rows path)

def setRows (path : String) (rows : List Row) : List (String × List Row) → List (String × List Row)
  | [] => [(path,rows)]
  | (name,old) :: rest => if name == path then (name,rows) :: rest else (name,old) :: setRows path rows rest

def keep (s : Site) (k : Keeping) (store : Store) : Site :=
  match k,store with
  | .kept path,.table rows => {s with tables := setRows path rows s.tables}
  | _,_ => s

-- Only a structured log goes to a file.
def setUpLog (s : Site) (m : Monitoring) : Site :=
  {s with recorder := if m.structured then s.recorder.setUp m else {s.recorder with file := none,level := m.level}}

def desk (s : Site) (settings : Settings) (environment : Environment) (store : Store) : Desk :=
  {settings,storage := ⟨store,[]⟩,runtime := .registry .empty,
    alarm := .sinks (settings.monitoring.sinks environment s.network),clock := s.clock,ids := s.ids,made := s.made,
    requests := 0,notices := 0,journal := []}

def close (s : Site) (k : Keeping) (d : Desk) : Site :=
  {s.keep k d.storage.store with recorder := s.recorder.record d.entries,ids := d.ids,made := d.made}

def failing (fault : Fault) : Turn := ⟨.failed fault,[],[]⟩

def runTask (s : Site) (place : Place) (t : Task) : Site × Turn :=
  match s.settings place.settings with
  | .error fault => (s,failing fault)
  | .ok (settings,environment) =>
    let s := s.setUpLog settings.monitoring
    match s.keeping settings place.table with
    | .error fault => (s,failing fault)
    | .ok k =>
      let (d,answer) := (s.desk settings environment (s.storeOf k)).serveAlone t
      let screen := match answer with
        | .ok a => Screen.ofAnswer a
        | .error fault => .failed fault
      (s.close k d,⟨screen,d.journal.flatMap Happening.posts,d.entries⟩)

def missing? (s : Site) (paths : List String) : Option String := paths.find? fun path => !s.exists? path

def report (conditions snapshot : Json) (detailed : Bool) (settings : Settings) : Except Fault Screen :=
  match conditions,(if snapshot.truthy then snapshot else .obj []) with
  | .obj fields,.obj snapshot => do
    let g ← Group.parse "conditions" (.obj fields)
    if detailed then (g.report snapshot settings.collectDetails).map Screen.ofReport
    else (g.evaluate snapshot).map fun met => Screen.ofReport ⟨met,[]⟩
  | _,_ => .ok (.refused "conditions and snapshot must both be objects")

def evaluate (s : Site) (settings conditions snapshot : String) (detailed : Bool) : Except Fault Screen := do
  let (settings,_) ← s.settings settings
  match s.missing? [conditions,snapshot] with
  | some path => pure (.refused s!"{path} does not exist")
  | none =>
    let conditions ← s.readText conditions >>= Yaml.read
    let snapshot ← s.readText snapshot >>= Yaml.read
    report conditions.toJson snapshot.toJson detailed settings

-- A fault of what was asked is told, any other fault is not foreseen.
def shown : Except Fault Screen → Screen
  | .ok screen => screen
  | .error fault =>
    match fault.rejection? with
    | some message => .refused message
    | none => .failed fault

def run (s : Site) (words : List String) : Site × Turn :=
  match Command.read words with
  | .error .unreadable => (s,⟨.misused,[],[]⟩)
  | .error (.refused message) => (s,⟨.refused message,[],[]⟩)
  | .ok .version => (s,⟨.version,[],[]⟩)
  | .ok .help => (s,⟨.help,[],[]⟩)
  | .ok (.task place t) => s.runTask place t
  | .ok (.evaluate settings conditions snapshot detailed) =>
    (s,⟨shown (s.evaluate settings conditions snapshot detailed),[],[]⟩)

end Site
end OrderDesk
