import OrderDesk.Proofs.Trailing.Mark

-- Desks with orders in store already. Every order has the state of its kind, with values of the kinds that
-- orders are made with, and no visit changes that.
namespace OrderDesk

-- Counts are nothing or whole numbers.
def Schedule.Typed (s : Schedule) : Prop := s.remaining = .null ∨ ∃ n, s.remaining = .int n

theorem Schedule.advance_typed {s later : Schedule} {terms : Terms} {now : Timestamp} (typed : s.Typed)
    (advanced : s.advance terms now = .ok later) : later.Typed := by
  obtain ⟨remaining,done,length,due,counted,-,-,-,rfl⟩ := advance_record advanced
  rcases typed with none | ⟨n,held⟩
  · rw [none] at counted
    exact Or.inl (Except.ok.inj counted).symm
  · rw [held] at counted
    exact Or.inr ⟨n + -1,(Except.ok.inj counted).symm⟩

-- The count of an order is the one it had, or the one after an execution.
theorem Effect.schedule {now : Timestamp} {call : Call} {response : Response} {before after : Order}
    (effect : Effect now call response (some before) (some after)) : after.schedule = before.schedule ∨
      ∃ s later, before.schedule = some s ∧ s.advance before.params.terms now = .ok later ∧ after.schedule = some later := by
  cases effect with
  | kept idle => exact Or.inl rfl
  | moved asked allowed => exact Or.inl (Move.apply_schedule _ _ _)
  | flagged asked allowed => exact Or.inl (Move.apply_schedule _ _ _)
  | executed asked takes =>
    rename_i before later last
    refine Or.inr ⟨before,later,takes.held,takes.advanced,?_⟩
    rw [takes.record]
    cases last <;> rfl
  | observed asked sees => exact Or.inl sees.schedule

namespace Order

structure Typed (o : Order) : Prop where
  trailing : ∀ terms, o.params.terms = .trailingStop terms → ∃ t, o.trailing = some t ∧ t.Typed
  schedule : o.params.terms.scheduled = true → ∃ s, o.schedule = some s ∧ s.Typed

theorem New.typed {id : String} {now : Timestamp} {o : Order} (new : o.New id now) : o.Typed := by
  constructor
  · intro terms own
    have held := new.trailing
    rw [own] at held
    refine ⟨_,held,?_⟩
    cases initial : terms.initialPrice with
    | none => exact Or.inl (congrArg optFloat initial)
    | some x => exact Or.inr ⟨x,congrArg optFloat initial⟩
  · intro scheduled
    have held := new.schedule
    cases own : o.params.terms with
    | dca plan =>
      rw [own] at held
      refine ⟨_,held,?_⟩
      cases count : plan.count with
      | none => exact Or.inl rfl
      | some n => exact Or.inr ⟨n,rfl⟩
    | twap plan =>
      rw [own] at held
      exact ⟨_,held,Or.inr ⟨plan.slices,rfl⟩⟩
    | _ =>
      rw [own] at scheduled
      cases scheduled

end Order

theorem Effect.typed {now : Timestamp} {call : Call} {response : Response} {before after : Order}
    (effect : Effect now call response (some before) (some after)) (typed : before.Typed) : after.Typed := by
  have params := effect.lasts.params
  constructor
  · intro terms own
    rw [params] at own
    obtain ⟨t,held,kind⟩ := typed.trailing terms own
    rcases effect.trailing with same | ⟨id,snapshot,old,asked,next,fields,-,stored,followed,same⟩
    · exact ⟨t,same.trans held,kind⟩
    · rw [held] at stored
      cases stored
      exact ⟨next,same,Trailing.follow_typed kind followed⟩
  · intro scheduled
    rw [params] at scheduled
    obtain ⟨s,held,kind⟩ := typed.schedule scheduled
    rcases effect.schedule with same | ⟨old,later,stored,advanced,same⟩
    · exact ⟨s,same.trans held,kind⟩
    · rw [held] at stored
      cases stored
      exact ⟨later,same,Schedule.advance_typed kind advanced⟩

namespace Desk

structure Stocked (d : Desk) (visits : List Visit) : Prop where
  ready : d.Ready visits
  typed : ∀ id o, d.stored id = some o → o.Typed

variable {d : Desk} {visits earlier later : List Visit}

theorem opened_stocked (opened : d.Opened visits) : d.Stocked visits := ⟨opened_ready opened,opened_holds opened⟩

theorem run_stocked (stocked : d.Stocked visits) (split : visits = earlier ++ later) : (d.run earlier).Stocked later := by
  subst split
  exact ⟨(run_ready stocked.ready).1,
    run_holds (fun new => new.typed) (fun effect typed => effect.typed typed) stocked.ready stocked.typed⟩

end Desk
end OrderDesk
