import OrderDesk.Console.Site
import OrderDesk.Store.File
import Std.Time.DateTime.Timestamp

-- The console as a program: reads what a command needs, runs it, and writes what it leaves behind. There is no
-- network here, so webhooks are out of reach.
namespace OrderDesk.Program

def readFile? (path : String) : IO (Option String) := do
  try return some (← IO.FS.readFile path) catch _ => return none

def isThere (path : String) : IO Bool := do
  try
    let _ ← IO.FS.realPath path
    return true
  catch _ => return false

def readFiles (paths : List String) : IO (List (String × String)) := do
  let found ← paths.mapM fun path => return (← readFile? path).map fun text => (path,text)
  return found.filterMap id

def now : IO Timestamp := do
  let time ← Std.Time.Timestamp.now
  let micros := time.toNanosecondsSinceUnixEpoch.val / 1000
  return (Timestamp.epoch.shift? micros).getD Timestamp.epoch

def newId : IO String := do
  let bytes ← IO.getRandomBytes 8
  let number := bytes.toList.foldl (fun n b => n * 256 + b.toNat) 0
  return "order_" ++ String.ofList (Text.hexText 16 number)

def unreachable : Network := fun _ _ => some ⟨"OSError","network is unreachable"⟩

def siteFor (paths : List String) : IO Site := do
  return {files := ← readFiles paths,folders := [],tables := [],recorder := .idle,environment := [],
           network := unreachable,clock := ← now,ids := [← newId],made := 0}

def withEnvironment (s : Site) (settings : Settings) : IO Site := do
  let name := settings.monitoring.webhookVariable
  match ← IO.getEnv name with
  | some value => return {s with environment := [(name,value)]}
  | none => return s

def withTable (s : Site) (path : String) : IO Site := do
  let folder := Path.folder path
  let s := if ← isThere folder then {s with folders := [folder]} else s
  match ← readFile? path with
  | none => return s
  | some text =>
    match Row.ofFileText? text with
    | some rows => return {s with tables := [(path,rows)]}
    | none => return {s with files := s.files ++ [(path,text)]}

def prepared (s : Site) (place : Place) : IO Site := do
  let s ← match s.settings place.settings with
    | .ok (settings,_) => withEnvironment s settings
    | .error _ => pure s
  match s.tablePath? place with
  | some path => withTable s path
  | none => return s

def structured (s : Site) (place : Place) : Bool :=
  match s.settings place.settings with
  | .ok (settings,_) => settings.monitoring.structured
  | .error _ => false

def plainLine (time : Timestamp) (e : Entry) : String := s!"{time.text} {e.level.name} {e.message}"

def report (before after : Site) (place : Place) (entries : List Entry) : IO Unit := do
  for e in entries.filter after.recorder.keeps do
    IO.eprintln (if structured before place then e.line before.clock else plainLine before.clock e)

def writeLogs (s : Site) : IO Unit := do
  for (path,entries) in s.recorder.files do
    IO.FS.createDirAll (Path.folder path)
    let file ← IO.FS.Handle.mk path .append
    for e in entries do
      file.putStrLn (e.line s.clock)

def writeTables (s : Site) : IO Unit := do
  for (path,rows) in s.tables do
    IO.FS.writeFile path (Row.fileText rows)

def display (screen : Screen) : IO UInt32 := do
  IO.print screen.output
  IO.eprint screen.errorOutput
  match screen with
  | .misused => IO.eprint Screen.help.output
  | .failed fault => IO.eprintln s!"Failed: {fault.message}"
  | _ => pure ()
  return screen.exitCode.toUInt32

def run (words : List String) : IO UInt32 := do
  match Command.read words with
  | .ok (.task place t) =>
    let before ← prepared (← siteFor (Command.task place t).paths) place
    let (after,turn) := before.run words
    report before after place turn.entries
    writeTables after
    writeLogs after
    display turn.screen
  | .ok command => do
    let site ← siteFor command.paths
    display (site.run words).2.screen
  | .error _ => display (Site.run (← siteFor []) words).2.screen

end OrderDesk.Program

def main (words : List String) : IO UInt32 := OrderDesk.Program.run words
