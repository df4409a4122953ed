import OrderDesk.Proofs.Desk.Visits

-- What happens to one order along a session, collected visit by visit. What the order is like is told by the
-- history since it was made, and an order that is gone has none to come.
namespace OrderDesk
namespace Desk
variable {α : Type}

def history (events : Desk → Visit → List α) (d : Desk) : List Visit → List α
  | [] => []
  | v :: visits => events d v ++ history events (d.visit v).1 visits

theorem history_append (events : Desk → Visit → List α) (d : Desk) (first second : List Visit) :
    d.history events (first ++ second) = d.history events first ++ (d.run first).history events second := by
  induction first generalizing d with
  | nil => rfl
  | cons v first ih =>
    rw [List.cons_append,history,history,ih,List.append_assoc]
    rfl

-- What the events of an order tell about it: nothing yet when it is new, and more with each visit that names it.
structure Telling (id : String) (events : Desk → Visit → List α) (admits : Visit → Prop) (tells : Order → List α → Prop) : Prop where
  first : ∀ {now o}, Order.New id now o → tells o []
  next : ∀ {d : Desk} {v visits before after told}, d.Ready (v :: visits) → admits v → v.call.subject? = some id →
    d.stored id = some before → (d.visit v).1.stored id = some after → tells before told → tells after (told ++ events d v)
  apart : ∀ {d : Desk} {v}, v.call.subject? ≠ some id → events d v = []
  absent : ∀ {d : Desk} {v visits}, d.Ready (v :: visits) → v.call.subject? = some id → d.stored id = none → events d v = []

structure Told (d : Desk) (visits : List Visit) (id : String) (tells : Order → List α → Prop) (told : List α) : Prop where
  held : ∀ o, d.stored id = some o → tells o told
  absent : d.stored id = none → told = [] ∨ d.Spent visits id

section
variable {d : Desk} {v : Visit} {visits earlier later : List Visit} {id : String} {events : Desk → Visit → List α}
  {admits : Visit → Prop} {tells : Order → List α → Prop} {told : List α}

theorem named_told (telling : Telling id events admits tells) (ready : d.Ready (v :: visits)) (admitted : admits v)
    (subject : v.call.subject? = some id) (before : d.Told (v :: visits) id tells told) :
    (d.visit v).1.Told visits id tells (told ++ events d v) := by
  have spends := (visit_leaves ready).spent id
  cases held : d.stored id with
  | none =>
    have effect := visit_named ready subject
    rw [held] at effect
    have gone := effect.absent
    rw [telling.absent ready subject held,List.append_nil]
    refine ⟨?_,fun _ => (before.absent held).imp_right spends⟩
    intro o seen
    rw [gone] at seen
    cases seen
  | some o =>
    refine ⟨?_,fun _ => Or.inr (spends (stored_spent ready held))⟩
    intro after seen
    exact telling.next ready admitted subject held seen (before.held o held)

theorem apart_told (telling : Telling id events admits tells) (ready : d.Ready (v :: visits)) (apart : v.call.subject? ≠ some id)
    (before : d.Told (v :: visits) id tells told) : (d.visit v).1.Told visits id tells told := by
  have spends := (visit_leaves ready).spent id
  rcases visit_at ready id with same | ⟨named,-⟩ | ⟨creates,first,fresh,creation,answer,here,new⟩
  · refine ⟨?_,?_⟩
    · rw [same]
      exact before.held
    · rw [same]
      exact fun gone => (before.absent gone).imp_right spends
  · exact absurd named apart
  · have more : creations (v :: visits) = creations visits + 1 := List.countP_cons_of_pos creates
    have none : told = [] := by
      rcases before.absent fresh with none | spent
      · exact none
      · exact absurd first.symm (spent 0 (by omega))
    refine ⟨?_,?_⟩
    · intro o seen
      rw [here] at seen
      cases seen
      rw [none]
      exact telling.first new
    · intro gone
      rw [here] at gone
      cases gone

theorem visit_told (telling : Telling id events admits tells) (ready : d.Ready (v :: visits)) (admitted : admits v)
    (before : d.Told (v :: visits) id tells told) : (d.visit v).1.Told visits id tells (told ++ events d v) := by
  by_cases subject : v.call.subject? = some id
  · exact named_told telling ready admitted subject before
  · rw [telling.apart subject,List.append_nil]
    exact apart_told telling ready subject before

theorem run_told (telling : Telling id events admits tells) (ready : d.Ready (earlier ++ later))
    (admitted : ∀ v ∈ earlier, admits v) (before : d.Told (earlier ++ later) id tells told) :
    (d.run earlier).Told later id tells (told ++ d.history events earlier) := by
  induction earlier generalizing d told with
  | nil => simpa [history,run] using before
  | cons v earlier ih =>
    have next := visit_told telling ready (admitted v List.mem_cons_self) before
    have last := ih (visit_leaves ready).ready (fun w member => admitted w (List.mem_cons_of_mem v member)) next
    rw [List.append_assoc] at last
    exact last

theorem opened_told (opened : d.Opened visits) (id : String) (tells : Order → List α → Prop) : d.Told visits id tells [] := by
  refine ⟨?_,fun _ => Or.inl rfl⟩
  intro o held
  rw [opened_nothing opened id] at held
  cases held

end

end Desk
end OrderDesk
