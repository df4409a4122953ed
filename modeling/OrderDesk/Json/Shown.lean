import OrderDesk.Fault
import OrderDesk.Json.Write

-- Texts of values in messages. An integer with too many digits has none, and a message that names one is a fault. Entries of
-- the log are written behind the back of the caller, where such a fault is swallowed: they take `display` and `quoted`.
namespace OrderDesk.Json

def printable (v : Json) : Bool := v.within printedDigits

def shown (v : Json) : Except Fault String := if v.printable then .ok v.display else .error .unprintable

def shownQuoted (v : Json) : Except Fault String := if v.printable then .ok v.quoted else .error .unprintable

theorem shownQuoted_printable {v : Json} (printable : v.printable = true) : v.shownQuoted = .ok v.quoted := by
  rw [shownQuoted,printable]
  rfl

theorem shownQuoted_unprintable {v : Json} (unprintable : v.printable = false) : v.shownQuoted = .error .unprintable := by
  rw [shownQuoted,unprintable]
  rfl

@[simp] theorem printable_str (s : String) : (str s).printable = true := rfl

end OrderDesk.Json
