import OrderDesk.Desk.Create
import OrderDesk.Desk.Listing

-- Single tasks at the desk and their answers. A task may be served at a desk that stays open, or at one that is
-- opened for it: then the flows of all unfinished orders are made and registered first.
namespace OrderDesk

inductive Verb where
  | activate
  | pause
  | resume
  | cancel
deriving DecidableEq

inductive Task where
  | create (kind : String) (params : Json)
  | list (f : Filter) (p : Page)
  | order (id : String)
  | flow (id : String)
  | stats
  | move (verb : Verb) (id : String)

inductive Answer where
  | created (o : Order)
  | orders (found : List Order)
  | order (o : Order)
  | flow (f : Flow)
  | stats (s : Stats)
  | moved (id : String) (after : Option Order)
  | rejected (message : String)
  | unknown (id : String)
  | stays (verb : Verb) (id : String) (current : Option Order)

namespace Verb

def name : Verb → String
  | activate => "activate"
  | pause => "pause"
  | resume => "resume"
  | cancel => "cancel"

def all : List Verb := [activate,pause,resume,cancel]

end Verb

-- The text of a fault that lies in what was asked, not in the asking.
def Fault.rejection? : Fault → Option String
  | .invalid field message => some (Fault.invalid field message).message
  | .malformed message => some message
  | _ => none

namespace Desk

def makeFlow (d : Desk) (o : Order) : Desk × Except Fault Flow :=
  match o.flow d.settings.flow d.clock with
  | .error fault => (d,.error fault)
  | .ok f => (d.log (flowEntry o f),.ok f)

-- Makes and registers the flows of unfinished orders, up to the first that has none.
def resumeFlows (d : Desk) : List Order → Desk × Except Fault Unit
  | [] => (d,.ok ())
  | o :: rest =>
    if o.terminal then resumeFlows d rest
    else match d.makeFlow o with
      | (d,.error fault) => (d,.error fault)
      | (d,.ok f) => resumeFlows (d.register o.id f).1 rest

-- The desk with a new registry for the flows of its unfinished orders.
def reopen (d : Desk) : Desk × Except Fault Unit :=
  let d := {d with runtime := .registry .empty}
  match d.storage.list with
  | .error fault => (d,.error fault)
  | .ok orders => d.resumeFlows orders

def move? (d : Desk) (id : Json) : Verb → Desk × Except Fault Bool
  | .activate => d.activate id
  | .pause => d.pause id
  | .resume => d.resume id
  | .cancel => d.cancel id

-- Makes a move and looks at the order again.
def serveMove (d : Desk) (verb : Verb) (id : String) : Desk × Except Fault Answer :=
  match d.move? (.str id) verb with
  | (d,.error fault) => (d,.error fault)
  | (d,.ok done) =>
    (d,(d.get (.str id)).map fun o => if done then .moved id o else .stays verb id o)

def serveCreate (d : Desk) (kind : String) (params : Json) : Desk × Except Fault Answer :=
  match d.create (.str kind) params with
  | (d,.ok creation) => (d,.ok (.created creation.order))
  | (d,.error fault) =>
    match fault.rejection? with
    | some message => (d,.ok (.rejected message))
    | none => (d,.error fault)

def serveFlow (d : Desk) (id : String) : Desk × Except Fault Answer :=
  match d.get (.str id) with
  | .error fault => (d,.error fault)
  | .ok none => (d,.ok (.unknown id))
  | .ok (some o) =>
    let (d,f) := d.makeFlow o
    (d,f.map .flow)

def serve (d : Desk) : Task → Desk × Except Fault Answer
  | .create kind params => d.serveCreate kind params
  | .list f p => (d,(d.list f p).map .orders)
  | .order id => (d,(d.get (.str id)).map fun
      | some o => .order o
      | none => .unknown id)
  | .flow id => d.serveFlow id
  | .stats => (d,d.stats.map .stats)
  | .move verb id => d.serveMove verb id

def serveAlone (d : Desk) (t : Task) : Desk × Except Fault Answer :=
  match d.reopen with
  | (d,.error fault) => (d,.error fault)
  | (d,.ok ()) => d.serve t

end Desk
end OrderDesk
