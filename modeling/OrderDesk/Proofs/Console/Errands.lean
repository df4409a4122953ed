import OrderDesk.Proofs.Console.Growth
import OrderDesk.Proofs.Desk.Reopening

-- Commands of the console, each of which opens a desk of its own, beside one desk that stays open and serves
-- the same tasks. As long as all commands have the same settings and the same table, they show what is answered
-- at that desk and leave the orders it leaves.
namespace OrderDesk

namespace Desk

end Desk

namespace Site

-- The desk that stays open has the orders of the table, and makes the ids that the next command makes.
structure Backs (s : Site) (path : String) (d : Desk) : Prop where
  storage : d.storage = ⟨.table (s.rows path),[]⟩
  ids : d.ids = s.ids
  made : d.made = s.made

section
variable {s after : Site} {d : Desk} {settings : Settings} {path : String} {place : Place} {e : Errand}

theorem Backs.get (backs : s.Backs path d) (id : String) : (Store.table (s.rows path)).get (.str id) = d.get (.str id) := by
  rw [Desk.get,backs.storage]
  rfl

-- The rows of a table; there are none in memory.
def rowsOf : Store → List Row
  | .memory _ => []
  | .table rows => rows

end

-- The table of a stop that was placed at a desk without a runtime.
def stocked : Site :=
  ⟨[],[],[("order_engine.db",rowsOf ((Desk.vacant .table).run [Desk.placed.visit]).storage.store)],.idle,[],fun _ _ => none,
    .origin,[],1⟩

end Site

namespace Site

end Site
end OrderDesk
