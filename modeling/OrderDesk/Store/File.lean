import OrderDesk.Json.Read
import OrderDesk.Store.Row
import OrderDesk.Text.Split

-- A table as the text of a file: one row a line, written as the record of its order.
namespace OrderDesk.Row

def line (r : Row) : String := (Json.obj r.fields).compact

def ofLine? (line : String) : Option Row :=
  match Json.read line with
  | .ok (.obj fields) =>
    match Order.ofFields .origin fields >>= ofOrder with
    | .ok r => some r
    | .error _ => none
  | _ => none

def fileText (rows : List Row) : String := String.join (rows.map fun r => r.line ++ "\n")

-- Nothing where a line is no row.
def ofFileText? (text : String) : Option (List Row) :=
  ((Text.split '\n' text).filter (· ≠ "")).mapM ofLine?

end OrderDesk.Row
