import OrderDesk.Action.Run
import OrderDesk.Desk.Task
import OrderDesk.Proofs.Desk.Enrolment

-- Actions are calls to the desk with a plain answer. The desk is left as the call leaves it, but for entries in the log,
-- and every fault ends in the answer but two: a payload that is no object and whose entries are no pairs, and a move of an
-- order whose id has no text.
namespace OrderDesk

def Verb.action : Verb → Action
  | .activate => .activate
  | .pause => .pause
  | .resume => .resume
  | .cancel => .cancel

-- A refusal says why.
def ActionResult.Explained (r : ActionResult) : Prop := r.success = false → ∃ error, r.error = some error

theorem ActionResult.refused_explained (error : String) : (refused error).Explained := fun _ => ⟨error,rfl⟩

namespace Action
open ActionResult Desk
variable {d after : Desk} {args fields : Fields} {words : String} {result : ActionResult}
  {operation : Desk → Json → Desk × Except Fault Bool}

-- The payload. An object has texts for keys, so only a name that is no argument refuses it.

-- What becomes of a move, whatever the operation does and wherever it breaks off: also where the order is moved and
-- cannot be read again.
structure Moved (d : Desk) (operation : Desk → Json → Desk × Except Fault Bool) (args : Fields) (after : Desk)
    (answer : Except Fault ActionResult) : Prop where
  explained : ∀ result, answer = .ok result → result.Explained
  lacking : (given "order_id" args).truthy = false → after = d ∧ ∃ error, answer = .ok (refused error)
  called : (given "order_id" args).truthy = true → (operation d (given "order_id" args)).1.Noted after
  success : (∃ result, answer = .ok result ∧ result.success = true) ↔ (given "order_id" args).truthy = true ∧
    (given "order_id" args).printable = true ∧ (operation d (given "order_id" args)).2 = .ok true ∧
    ∃ found, (operation d (given "order_id" args)).1.get (given "order_id" args) = .ok found
  -- Nothing but the text of the id ends it without an answer, also where the order has been moved.
  escapes : ∀ fault, answer = .error fault ↔
    fault = .unprintable ∧ (given "order_id" args).truthy = true ∧ (given "order_id" args).printable = false

-- The desk as the call behind a move leaves it; nothing where no order is named.
def moving (d : Desk) (args : Fields) (verb : Verb) : Option Desk :=
  if (given "order_id" args).truthy then some (d.move? (given "order_id" args) verb).1 else none

-- The desk as the call behind an action leaves it. Calls that only look leave it as it is.
def called (d : Desk) (args : Fields) : Action → Option Desk
  | .create =>
    if (given "type" args).truthy && !(given "params" args).isNull then
      some (d.create (given "type" args) (given "params" args)).1
    else none
  | .get => if (given "order_id" args).truthy then some d else none
  | .list | .stats => some d
  | .activate => moving d args .activate
  | .pause => moving d args .pause
  | .resume => moving d args .resume
  | .cancel => moving d args .cancel

-- The id that a move is asked for has no text.
def Unshown (args : Fields) : Action → Prop
  | .activate | .pause | .resume | .cancel =>
    (given "order_id" args).truthy = true ∧ (given "order_id" args).printable = false
  | .create | .list | .get | .stats => False

-- What becomes of an action with its arguments.
structure Ran (d : Desk) (before : Option Desk) (after : Desk) (unshown : Prop) (answer : Except Fault ActionResult) : Prop where
  explained : ∀ result, answer = .ok result → result.Explained
  lacking : before = none → after = d ∧ ∃ error, answer = .ok (refused error)
  noted : ∀ desk, before = some desk → desk.Noted after
  escapes : ∀ fault, answer = .error fault ↔ fault = .unprintable ∧ unshown

theorem Ran.shown {before : Option Desk} {unshown : Prop} (ran : Ran d before after unshown (.ok result)) : ¬ unshown := by
  intro unshown
  cases (ran.escapes .unprintable).mpr ⟨rfl,unshown⟩

theorem Moved.ran {v : Verb} {answer : Except Fault ActionResult} (moved : Moved d (fun d id => d.move? id v) args after answer) :
    Ran d (moving d args v) after (v.action.Unshown args) answer := by
  have unshown : v.action.Unshown args ↔ (given "order_id" args).truthy = true ∧ (given "order_id" args).printable = false := by
    cases v <;> rfl
  have escapes (fault : Fault) : answer = .error fault ↔ fault = .unprintable ∧ v.action.Unshown args := by
    rw [unshown]
    exact moved.escapes fault
  unfold moving
  split
  · rename_i named
    refine ⟨moved.explained,fun missing => (Option.some_ne_none _ missing).elim,?_,escapes⟩
    intro own same
    cases same
    exact moved.called named
  · rename_i unnamed
    exact ⟨moved.explained,fun _ => moved.lacking (Bool.eq_false_iff.mpr unnamed),fun _ made => (Option.some_ne_none _ made.symm).elim,
      escapes⟩

theorem ofName_name (a : Action) : ofName? (.str a.name) = some a := by
  cases a <;> decide

-- How far an action comes, and what it leaves: the desk as it was where it ends before the call behind it is made, and
-- otherwise what that call leaves. Every answer is a result but that of a payload without pairs, and that of a move of an
-- order whose id has no text.
inductive Comes (d : Desk) (name : String) (payload : Json) (after : Desk) : Except Fault ActionResult → Prop where
  | unknown {error : String} (other : ∀ a : Action, a.name ≠ name) (same : after = d) : Comes d name payload after (.ok (refused error))
  | unfit {a : Action} {message error : String} (own : a.name = name)
      (unbound : Payload.bind a payload = .error (.raised "TypeError" message)) (same : after = d) :
      Comes d name payload after (.ok (refused error))
  | unpaired {a : Action} {message : String} (own : a.name = name) (unbound : Payload.bind a payload = .error (.badValue message))
      (same : after = d) : Comes d name payload after (.error (.badValue message))
  | lacking {a : Action} {args : Fields} {error : String} (own : a.name = name) (bound : Payload.bind a payload = .ok args)
      (missing : called d args a = none) (same : after = d) (shown : ¬ a.Unshown args) :
      Comes d name payload after (.ok (refused error))
  | called {a : Action} {args : Fields} {desk : Desk} {result : ActionResult} (own : a.name = name)
      (bound : Payload.bind a payload = .ok args) (made : called d args a = some desk) (noted : desk.Noted after)
      (shown : ¬ a.Unshown args) (explained : result.Explained) : Comes d name payload after (.ok result)
  | unshown {a : Action} {args : Fields} {desk : Desk} (own : a.name = name) (bound : Payload.bind a payload = .ok args)
      (made : called d args a = some desk) (noted : desk.Noted after) (unshown : a.Unshown args) :
      Comes d name payload after (.error .unprintable)

theorem Comes.explained {name : String} {payload : Json} {answer : Except Fault ActionResult} (comes : Comes d name payload after answer) :
    ∀ result, answer = .ok result → result.Explained := by
  intro result made
  cases comes with
  | unknown | unfit | lacking =>
    cases made
    exact refused_explained _
  | unpaired | unshown => cases made
  | called _ _ _ _ _ explained =>
    cases made
    exact explained

theorem Ran.comes {a : Action} {name : String} {payload : Json} {answer : Except Fault ActionResult} (own : a.name = name)
    (bound : Payload.bind a payload = .ok args) (ran : Ran d (called d args a) after (a.Unshown args) answer) :
    Comes d name payload after answer := by
  cases made : Action.called d args a with
  | none =>
    obtain ⟨same,error,answered⟩ := ran.lacking made
    subst answered
    exact .lacking own bound made same ran.shown
  | some desk =>
    have noted := ran.noted desk made
    cases answer with
    | ok result =>
      exact .called own bound made noted ran.shown (ran.explained result rfl)
    | error fault =>
      obtain ⟨rfl,unshown⟩ := (ran.escapes fault).mp rfl
      exact .unshown own bound made noted unshown

-- The names and payloads that no answer comes of.
def Escapes (name : String) (payload : Json) : Prop := ∃ a : Action, a.name = name ∧
  ((∃ message, Payload.bind a payload = .error (.badValue message)) ∨ ∃ args, Payload.bind a payload = .ok args ∧ a.Unshown args)

theorem name_injective {a b : Action} (same : a.name = b.name) : a = b := by
  have found := ofName_name b
  rw [← same,ofName_name] at found
  exact Option.some_inj.mp found

theorem Comes.escapes {name : String} {payload : Json} {answer : Except Fault ActionResult} (comes : Comes d name payload after answer) :
    (∃ fault, answer = .error fault) ↔ Escapes name payload := by
  cases comes with
  | unknown other same =>
    simp only [reduceCtorEq,exists_false,false_iff]
    rintro ⟨a,own,-⟩
    exact other a own
  | unfit own unbound same =>
    simp only [reduceCtorEq,exists_false,false_iff]
    rintro ⟨b,named,broken⟩
    cases name_injective (named.trans own.symm)
    simp [unbound] at broken
  | unpaired own unbound same => exact ⟨fun _ => ⟨_,own,Or.inl ⟨_,unbound⟩⟩,fun _ => ⟨_,rfl⟩⟩
  | lacking own bound missing same shown =>
    simp only [reduceCtorEq,exists_false,false_iff]
    rintro ⟨b,named,broken⟩
    cases name_injective (named.trans own.symm)
    simp [bound,shown] at broken
  | called own bound made noted shown explained =>
    simp only [reduceCtorEq,exists_false,false_iff]
    rintro ⟨b,named,broken⟩
    cases name_injective (named.trans own.symm)
    simp [bound,shown] at broken
  | unshown own bound made noted unshown => exact ⟨fun _ => ⟨_,own,Or.inr ⟨_,bound,unshown⟩⟩,fun _ => ⟨_,rfl⟩⟩

-- A move by its name, on a desk in order.

end Action
end OrderDesk
