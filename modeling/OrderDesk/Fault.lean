import OrderDesk.Validation.Issue

-- Why an operation ends without an answer.
namespace OrderDesk

inductive Fault where
  | invalid (field message : String)
  | issues (first : Issue) (rest : List Issue)
  | malformed (message : String)
  | badValue (message : String)
  | missingKey (key : String)
  -- A value of one kind stands where another is needed.
  | wrongKind
  | overflow
  | divisionByZero
  -- A part that the value does not have is used.
  | noSuchPart
  -- The table refuses a value of this kind.
  | unstorable
  -- A collaborator fails by its own account.
  | raised (kind message : String)
deriving DecidableEq

-- What a caller is told, where a caller is told the text.
def Fault.message : Fault → String
  | invalid field message => s!"{field}: {message}"
  | malformed message | badValue message | raised _ message => message
  | missingKey key => key
  | _ => ""

-- Integers of more digits are not written as texts.
def printedDigits : Nat := 4300

def Fault.unprintable : Fault :=
  .badValue s!"Exceeds the limit ({printedDigits} digits) for integer string conversion; use sys.set_int_max_str_digits() to increase the limit"

namespace Checked

-- Only the first issue is reported, by the dotted name of its place.
def orFault (root : String) : Checked α → Except Fault α
  | ok a => .ok a
  | invalid first _ => .error (.invalid (first.place root) first.summary)
  | overflow => .error .overflow

def orIssues : Checked α → Except Fault α
  | ok a => .ok a
  | invalid first rest => .error (.issues first rest)
  | overflow => .error .overflow

end Checked
end OrderDesk
