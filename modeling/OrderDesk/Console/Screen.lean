import OrderDesk.Condition.Evaluate
import OrderDesk.Desk.Task
import OrderDesk.Flow.Wire

-- What the console shows. Terminal control sequences in texts from outside are left out.
namespace OrderDesk

inductive Screen where
  | text (lines : String)
  | refused (message : String)
  | misused
  -- Nobody foresaw this fault.
  | failed (fault : Fault)
deriving DecidableEq

namespace Screen

def exitCode : Screen → Nat
  | text _ => 0
  | misused => 2
  | refused _ | failed _ => 1

def isParameter (c : Char) : Bool := c == ';' || c == '?' || ('0' ≤ c && c ≤ '9')

def isLetter (c : Char) : Bool := ('a' ≤ c && c ≤ 'z') || ('A' ≤ c && c ≤ 'Z')

-- The text behind a control sequence, if one stands at the beginning.
def behindSequence? : List Char → Option (List Char)
  | '\x1b' :: '[' :: rest =>
    match rest.dropWhile isParameter with
    | c :: rest => if isLetter c then some rest else none
    | [] => none
  | _ => none

-- Each round reads at least one character.
def withoutSequences : Nat → List Char → List Char
  | 0,chars => chars
  | _ + 1,[] => []
  | rounds + 1,c :: rest =>
    match behindSequence? (c :: rest) with
    | some behind => withoutSequences rounds behind
    | none => c :: withoutSequences rounds rest

def plain (text : String) : String := String.ofList (withoutSequences (text.length + 1) text.toList)

def output : Screen → String
  | text lines => plain lines
  | _ => ""

def errorOutput : Screen → String
  | refused message => plain (s!"Error: {message}\n")
  | _ => ""

-- A column of a table; a longer text pushes the rest of its line.
def column (width : Nat) (text : String) : String :=
  text ++ String.ofList (List.replicate (width - text.length) ' ')

def listed (o : Order) : String :=
  s!"{o.id.display}  {column 16 o.kind.name} {column 10 o.status.name} {column 8 o.params.token} {o.createdAt.text}\n"

def counted (width : Nat) (name : String) (n : Nat) : String := s!"  {column width name} {n}\n"

def statsText (s : Stats) : String :=
  s!"Total orders: {s.total}\n" ++ "By status:\n" ++
    String.join (s.byStatus.map fun (status,n) => counted 12 status.name n) ++ "By type:\n" ++
    String.join (s.byKind.map fun (kind,n) => counted 16 kind.name n)

def statusOr (unknown : String) (o : Option Order) : String := (o.map fun o => o.status.name).getD unknown

def ofAnswer : Answer → Screen
  | .created o => text (s!"Created {o.kind.name} order {o.id.display} ({o.status.name})\n" ++ o.toJson.pretty ++ "\n")
  | .orders [] => text "No orders.\n"
  | .orders found => text (String.join (found.map listed))
  | .order o => text (o.toJson.pretty ++ "\n")
  | .flow f => text (f.toJson.pretty ++ "\n")
  | .stats s => text (statsText s)
  | .moved id after => text ("Order " ++ id ++ ": " ++ statusOr "unknown" after ++ "\n")
  | .rejected message => refused message
  | .unknown id => refused s!"order {id} not found"
  | .stays verb id current => refused (s!"cannot {verb.name} order {id} (" ++ statusOr "not found" current ++ ")")

-- A constant of a comparison; a range is a pair.
def constantText : Test → String
  | .within low high => "(" ++ (Json.float low).quoted ++ ", " ++ (Json.float high).quoted ++ ")"
  | t => t.value.quoted

def detailLine (d : Detail) : String :=
  let mark := if d.met then "x" else " "
  s!"[{mark}] {d.condition.field} {d.condition.test.operator.name} {constantText d.condition.test} " ++
    s!"(actual: {d.actual.quoted})\n"

def ofReport (r : Report) : Screen :=
  text (String.join (r.details.map detailLine) ++ (if r.met then "true\n" else "false\n"))

def version : Screen := text "order-engine 0.1.0\n"

def help : Screen :=
  text ("Usage: order-engine COMMAND\n\nCommands:\n" ++
    "  create TYPE --params JSON\n  list [--status S] [--type T] [--token T] [--limit N] [--offset N]\n" ++
    "  show | flow | activate | pause | resume | cancel ORDER_ID\n  stats\n  evaluate CONDITIONS SNAPSHOT [--details]\n")

end Screen
end OrderDesk
