import OrderDesk.Desk.Basic
import OrderDesk.Text.Case

-- Listings, newest first, and counts. A filter asks for statuses, kinds and tokens; a field that asks for
-- nothing restricts nothing. A page is a stretch of the whole listing.
namespace OrderDesk

-- Wanted tokens may be any values, but only texts can be compared.
structure Filter where
  statuses : List Status
  kinds : List Kind
  tokens : List Json
deriving BEq

-- A page. Negative limits count back from the end of the listing.
structure Page where
  offset : Int
  limit : Option Int
deriving DecidableEq

structure Stats where
  total : Nat
  byStatus : List (Status × Nat)
  byKind : List (Kind × Nat)
deriving DecidableEq

namespace Filter

def all : Filter := ⟨[],[],[]⟩

def upperTokens : List Json → Except Fault (List String)
  | [] => .ok []
  | .str s :: rest => (upperTokens rest).map (Text.upper s :: ·)
  | _ :: _ => .error .noSuchPart

def wantsToken (f : Filter) (o : Order) : Except Fault Bool :=
  if f.tokens.isEmpty then .ok true
  else (upperTokens f.tokens).map fun wanted => (o.params.tokens.map Text.upper).any wanted.contains

def matches? (f : Filter) (o : Order) : Except Fault Bool :=
  if !f.statuses.isEmpty && !f.statuses.contains o.status then .ok false
  else if !f.kinds.isEmpty && !f.kinds.contains o.kind then .ok false
  else f.wantsToken o

def select (f : Filter) : List Order → Except Fault (List Order)
  | [] => .ok []
  | o :: rest => do
    let wanted ← f.matches? o
    let others ← select f rest
    pure (if wanted then o :: others else others)

end Filter

namespace Page

def whole : Page := ⟨0,none⟩

-- Where a stretch that is to end at some place ends; places below zero are counted from the end.
def endOf (length : Nat) (place : Int) : Nat := if place < 0 then (length + place).toNat else place.toNat

def cut (p : Page) (orders : List α) : List α :=
  let start := p.offset.toNat
  match p.limit with
  | none => orders.drop start
  | some limit => (orders.take (endOf orders.length (start + limit))).drop start

def ofJson (limit offset : Json) : Except Fault Page := do
  let offset ← match offset.countable? with
    | some (.int n) => pure n
    | some (.float x) => if (Number.float x).lt 0 then pure 0 else throw .wrongKind
    | none => throw .wrongKind
  match limit with
  | .null => pure ⟨offset,none⟩
  | limit => match limit.countable? with
    | some (.int n) => pure ⟨offset,some n⟩
    | _ => throw .wrongKind

end Page

-- All pairs of moments can be compared, or there is nothing to compare.
def allComparable : List Order → Bool
  | [] => true
  | o :: rest => rest.all fun other => o.createdAt.comparable other.createdAt

-- The newest order first; of orders of one moment the one that was first stays first.
def newestFirst (orders : List Order) : Except Fault (List Order) :=
  if allComparable orders then .ok (orders.mergeSort fun a b => decide (b.createdAt.instant ≤ a.createdAt.instant))
  else .error .wrongKind

namespace Stats

def count [DecidableEq κ] (key : Order → κ) (keys : List κ) (orders : List Order) : List (κ × Nat) :=
  keys.map fun k => (k,orders.countP fun o => key o = k)

def ofOrders (orders : List Order) : Stats :=
  ⟨orders.length,count Order.status Status.all orders,count Order.kind Kind.all orders⟩

def toJson (s : Stats) : Json :=
  .obj [("total",.int s.total),("byStatus",.obj (s.byStatus.map fun (status,n) => (status.name,.int n))),
    ("byType",.obj (s.byKind.map fun (kind,n) => (kind.name,.int n)))]

end Stats

namespace Desk

def listing (d : Desk) (f : Filter) : Except Fault (List Order) := do
  newestFirst (← f.select (← d.storage.list))

def list (d : Desk) (f : Filter) (p : Page) : Except Fault (List Order) := (d.listing f).map p.cut

def stats (d : Desk) : Except Fault Stats := d.storage.list.map Stats.ofOrders

def get (d : Desk) (id : Json) : Except Fault (Option Order) := d.storage.get id

end Desk
end OrderDesk
