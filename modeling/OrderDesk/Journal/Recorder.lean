import OrderDesk.Journal.Entry
import OrderDesk.Text.Path

-- Where log entries go: every entry of the asked level or above to the log file, if there is one. Files that
-- were begun stay when the log is set up again.
namespace OrderDesk

structure Recorder where
  level : Level
  file : Option String
  files : List (String × List Entry)

namespace Recorder

def begun (path : String) (files : List (String × List Entry)) : List (String × List Entry) :=
  if files.any fun file => file.1 == path then files else files ++ [(path,[])]

def asked (file : Option String) : Option String := (file.filter (· ≠ "")).map Path.normal

def idle : Recorder := ⟨.warning,none,[]⟩

def setUp (r : Recorder) (m : Monitoring) : Recorder :=
  match asked m.logFile with
  | some path => ⟨m.level,some path,begun path r.files⟩
  | none => ⟨m.level,none,r.files⟩

-- The number of places that entries go to; one of them is the error output.
def places (r : Recorder) : Nat := if r.file.isSome then 2 else 1

def keeps (r : Recorder) (e : Entry) : Bool := decide (r.level.rank ≤ e.level.rank)

def appended (path : String) (entries : List Entry) : List (String × List Entry) → List (String × List Entry)
  | [] => []
  | (name,old) :: rest => if name == path then (name,old ++ entries) :: rest else (name,old) :: appended path entries rest

def record (r : Recorder) (entries : List Entry) : Recorder :=
  match r.file with
  | some path => {r with files := appended path (entries.filter r.keeps) r.files}
  | none => r

end Recorder
end OrderDesk
