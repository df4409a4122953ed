import OrderDesk.Desk.Basic

-- What can be done with one stored order. Each operation reads the order, decides, and writes the whole record
-- back before anything is told; a decision is a pure function of the record that was read.
namespace OrderDesk

inductive Announcement where
  | entry (e : Entry)
  | notice (event : Event)
deriving BEq

inductive Decision (α : Type) where
  | fail (fault : Fault)
  -- The record stays as it is.
  | keep (answer : α) (entries : List Entry)
  | store (o : Order) (answer : α) (announcements : List Announcement)

namespace Desk

def announce (o : Order) (d : Desk) : Announcement → Desk
  | .entry e => d.log e
  | .notice event => d.tell o event

def announceAll (d : Desk) (o : Order) (announcements : List Announcement) : Desk :=
  announcements.foldl (announce o) d

-- Reads an order, decides, writes and announces.
def amend (d : Desk) (id : Json) (decide : Option Order → Decision α) : Desk × Except Fault α :=
  if !id.isKey then (d,.error .wrongKind)
  else match d.storage.get id with
    | .error fault => (d,.error fault)
    | .ok found =>
      match decide found with
      | .fail fault => (d,.error fault)
      | .keep answer entries => (d.logAll entries,.ok answer)
      | .store o answer announcements =>
        match d.storage.set o with
        | (storage,.error fault) => ({d with storage},.error fault)
        | (storage,.ok ()) => (announceAll {d with storage} o announcements,.ok answer)

end Desk

structure Move where
  target : Status
  -- The only statuses to start from, if not every status that has this move.
  only : Option (List Status)
  -- Error text that the runtime reports with the move.
  error : Json
  branch : Option String

namespace Move

def into (target : Status) : Move := ⟨target,none,.null,none⟩

def allows (m : Move) (current : Status) : Bool :=
  current.canMove m.target && match m.only with
    | none => true
    | some statuses => statuses.contains current

-- The runtime's reports are stamped: the trigger by itself, the end of a trade as completion.
def stamp (m : Move) (now : Timestamp) (o : Order) : Order :=
  match m.target with
  | .triggered => {o with triggeredAt := some now}
  | .completed | .failed => {o with completedAt := some now}
  | _ => o

def apply (m : Move) (now : Timestamp) (o : Order) : Order :=
  let moved := m.stamp now {o with status := m.target,updatedAt := now}
  if m.error.isNull then moved else {moved with error := m.error}

def event (m : Move) (o : Order) : Event := .ofStatus o.kind m.target (some o.status) m.branch

-- The order after the move, or nothing where the move is not allowed.
def decide (m : Move) (id : Json) (now : Timestamp) : Option Order → Decision (Option Order)
  | none => .keep none [Entry.plain .warning Desk.logger s!"Order {id.display} not found"]
  | some o =>
    if m.allows o.status then
      .store (m.apply now o) (some (m.apply now o))
        [.entry (Desk.orderEntry .info id s!"Order {id.display}: {o.status.name} -> {m.target.name}"),
         .notice (m.event o)]
    else
      .keep none [Desk.orderEntry .warning id
        s!"Order {id.display} cannot move from {o.status.name} to {m.target.name}"]

end Move

def Order.schedule? (o : Order) : Option Schedule := if o.params.terms.scheduled then o.schedule else none

def Order.triggered (o : Order) (now : Timestamp) : Order := {o with status := .triggered,triggeredAt := some now}

namespace Execution

-- One partial trade of an active order is taken, as long as any remain; the last one triggers the order.
def take (id : Json) (now : Timestamp) (o : Order) (s : Schedule) : Decision Bool :=
  match s.exhausted o.params.terms now with
  | .error fault => .fail fault
  | .ok true => .keep false []
  | .ok false =>
    match s.advance o.params.terms now with
    | .error interrupted => .fail interrupted.fault
    | .ok s =>
      match Schedule.usedUp s.remaining with
      | .error fault => .fail fault
      | .ok last =>
        let o := {o with schedule := some s,updatedAt := now}
        let counted := Announcement.entry (Desk.orderEntry .info id s!"Order {id.display} executed slice {s.done.display}")
        if last then
          .store (o.triggered now) true
            [counted,.notice (.ofSlice o.kind),.notice (.ofStatus o.kind .triggered none none)]
        else .store o true [counted,.notice (.ofSlice o.kind)]

def decide (id : Json) (now : Timestamp) : Option Order → Decision Bool
  | none => .keep false []
  | some o =>
    if o.status = .active then
      match o.schedule? with
      | some s => take id now o s
      | none => .keep false [Entry.plain .warning Desk.logger s!"Order {id.display} has no schedule to execute"]
    else .keep false []

end Execution

namespace Tick

def rose (before after : Option Trailing) : Except Fault Bool :=
  match before,after with
  | some before,some after =>
    match before.mark,after.mark with
    | .null,_ | _,.null => .ok false
    | .obj _,.obj _ => .error .wrongKind
    | x,y => match x.countable?,y.countable? with
      | some x,some y => .ok (y.gt x)
      | _,_ => .ok false
  | _,_ => .ok false

def expired (o : Order) (now : Timestamp) : Except Fault Bool :=
  if o.status = .active then
    match o.schedule? with
    | some s => s.exhausted o.params.terms now
    | none => .ok false
  else .ok false

def followed (id : Json) (o : Order) (rose : Bool) : List Announcement :=
  if rose then
    [.entry (Desk.orderEntry .info id s!"Order {id.display} new high {((o.trailing.map Trailing.mark).getD .null).display}"),
     .notice .trailingStopUpdated]
  else []

def ended (id : Json) (o : Order) (expired : Bool) : List Announcement :=
  if expired then
    [.entry (Desk.orderEntry .info id s!"Order {id.display} schedule ended"),.notice (.ofStatus o.kind .triggered none none)]
  else []

-- The state brought up to date by a snapshot, and the snapshot with the derived fields. An order whose schedule
-- has ended is triggered; an order without state is not written.
def observed (id : Json) (snapshot : Snapshot) (now : Timestamp) (o : Order) : Decision (Option Snapshot) :=
  match o.observe snapshot now with
  | .error fault => .fail fault
  | .ok (after,merged) =>
    match rose o.trailing after.trailing,expired after now with
    | .error fault,_ | .ok _,.error fault => .fail fault
    | .ok rose,.ok expired =>
      let after := if expired then {after.triggered now with updatedAt := now} else after
      if after.trailing.isSome || after.schedule.isSome then
        .store after (some merged) (followed id after rose ++ ended id after expired)
      else .keep (some merged) []

def decide (id : Json) (snapshot : Snapshot) (now : Timestamp) : Option Order → Decision (Option Snapshot)
  | none => .keep none []
  | some o => if o.status = .active ∨ o.status = .triggered then observed id snapshot now o else .keep none []

end Tick

namespace Desk

def move (d : Desk) (id : Json) (m : Move) : Desk × Except Fault (Option Order) := d.amend id (m.decide id d.clock)

def moves (d : Desk) (id : Json) (m : Move) : Desk × Except Fault Bool :=
  let (d,answer) := d.move id m
  (d,answer.map Option.isSome)

def activate (d : Desk) (id : Json) : Desk × Except Fault Bool := d.moves id (.into .active)

def resume (d : Desk) (id : Json) : Desk × Except Fault Bool := d.moves id {Move.into .active with only := some [.paused]}

def pause (d : Desk) (id : Json) : Desk × Except Fault Bool := d.moves id (.into .paused)

-- Marks an order with an error, if it is still stored.
def flagError (d : Desk) (id : Json) (message : String) : Desk × Except Fault Unit :=
  d.amend id fun
    | none => .keep () []
    | some o => .store {o with error := .str message,updatedAt := d.clock} () []

-- Tells the runtime that an order's flow is to stop. Its answer never undoes the cancellation.
def stopFlow (d : Desk) (id : Json) (o : Order) : Desk × Except Fault Bool :=
  let flow := o.flowId.display
  let (d,reply) := d.stop o.id o.flowId
  match reply with
  | .accepted => (d,.ok true)
  | .refused =>
    let (d,answer) := (d.log (orderEntry .warning id s!"Runtime did not cancel flow {flow}")).flagError id "runtime cancel failed"
    (d,answer.map fun _ => true)
  | .failed message _ =>
    let (d,answer) := (d.log ((orderEntry .error id s!"Runtime cancel failed for flow {flow}").because message)).flagError id
      s!"runtime cancel failed: {message}"
    (d,answer.map fun _ => true)

-- Cancels an order here first, then in the runtime.
def cancel (d : Desk) (id : Json) : Desk × Except Fault Bool :=
  match d.move id (.into .cancelled) with
  | (d,.error fault) => (d,.error fault)
  | (d,.ok none) => (d,.ok false)
  | (d,.ok (some o)) =>
    match d.runtime with
    | .none => (d,.ok true)
    | _ => if o.flowId.truthy then d.stopFlow id o else (d,.ok true)

def updateStatus (d : Desk) (id status error : Json) (branch : Option String) : Desk × Except Fault Bool :=
  match Status.ofJson? status with
  | none =>
    (d.log (Entry.plain .warning logger s!"Unknown status {status.quoted} for order {id.display}"),.ok false)
  | some target =>
    if target.fromRuntime then d.moves id ⟨target,none,error,branch⟩
    else
      (d.log (Entry.plain .warning logger s!"Status {target.name} is not reported by the runtime (order {id.display})"),
        .ok false)

def recordExecution (d : Desk) (id : Json) : Desk × Except Fault Bool := d.amend id (Execution.decide id d.clock)

-- The snapshot that an order's conditions are asked about, nothing for an order that is not watched.
def prepare (d : Desk) (id : Json) (snapshot : Snapshot) : Desk × Except Fault (Option Snapshot) :=
  d.amend id (Tick.decide id snapshot d.clock)

end Desk
end OrderDesk
