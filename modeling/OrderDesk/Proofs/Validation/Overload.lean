import OrderDesk.Proofs.Validation.Reread

-- Checks that give up. A number that is too large for a float is refused wherever a float is read, so that no
-- check of a single value gives up; where a check does, the check of the whole record does.
namespace OrderDesk

-- What comes of an input that is read: a value, a refusal that names a place, or, where a number is overloading, neither.
inductive Judges {α : Type} (answer : Except Fault α) (overloaded : Prop) : Prop where
  | taken (near : ¬ overloaded) (value : α) (read : answer = .ok value)
  | refused (near : ¬ overloaded) (field message : String) (told : answer = .error (.invalid field message))
  | raised (far : overloaded) (overflows : answer = .error .overflow)

theorem Judges.overflows {α : Type} {answer : Except Fault α} {overloaded : Prop} (judges : Judges answer overloaded) :
    answer = .error .overflow ↔ overloaded := by
  cases judges with
  | taken near value read => simp [read,near]
  | refused near field message told => simp [told,near]
  | raised far overflows => simp [overflows,far]

namespace Checked

@[simp] theorem refuse_ne_overflow (reason : Reason) : (refuse reason : Checked α) ≠ overflow := by
  simp [refuse]

theorem zipWith_overflow {f : α → β → γ} {a : Checked α} {b : Checked β} :
    zipWith f a b = overflow ↔ a = overflow ∨ b = overflow := by
  cases a <;> cases b <;> simp [zipWith]

theorem map_overflow {f : α → β} {a : Checked α} : a.map f = overflow ↔ a = overflow := by
  cases a <;> simp [map]

theorem functor_overflow {α β : Type} {f : α → β} {a : Checked α} : f <$> a = overflow ↔ a = overflow := map_overflow

theorem seq_overflow {α β : Type} {f : Checked (α → β)} {a : Checked α} : f <*> a = overflow ↔ f = overflow ∨ a = overflow :=
  zipWith_overflow

theorem andThen_overflow {a : Checked α} {next : α → Checked β} :
    a.andThen next = overflow ↔ a = overflow ∨ ∃ x, a = ok x ∧ next x = overflow := by
  cases a <;> simp [andThen]

theorem zipWith_settled {f : α → β → γ} {a : Checked α} {b : Checked β} (first : a ≠ overflow) (second : b ≠ overflow) :
    zipWith f a b ≠ overflow := by
  intro far
  exact (zipWith_overflow.mp far).elim first second

theorem andThen_settled {a : Checked α} {next : α → Checked β} (first : a ≠ overflow) (rest : ∀ x, next x ≠ overflow) :
    a.andThen next ≠ overflow := by
  intro far
  cases andThen_overflow.mp far with
  | inl early => exact first early
  | inr late =>
    obtain ⟨x,-,given⟩ := late
    exact rest x given

theorem under_overflow {step : PathStep} {a : Checked α} : a.under step = overflow ↔ a = overflow := by
  cases a <;> simp [under]

theorem under_settled {step : PathStep} {a : Checked α} (settled : a ≠ overflow) : a.under step ≠ overflow := by
  intro far
  exact settled (under_overflow.mp far)

theorem orFault_judges {a : Checked α} {overloaded : Prop} (gives : a = overflow ↔ overloaded) (root : String) :
    Judges (a.orFault root) overloaded := by
  cases a with
  | ok value => exact .taken (fun far => nomatch gives.mpr far) value rfl
  | invalid first rest => exact .refused (fun far => nomatch gives.mpr far) _ _ rfl
  | overflow => exact .raised (gives.mp rfl) rfl

end Checked

namespace Validation
open Checked

-- A check that always finds out whether a value will do.
def Settles (check : Check α) : Prop := ∀ v, check v ≠ overflow

section
variable {key : Key} {fields : Fields} {check : Check α}

theorem needed_overflow : needed key check fields = overflow ↔ ∃ name v, key.find? fields = some (name,v) ∧ check v = overflow := by
  unfold needed
  split
  · rename_i name v found
    rw [under_overflow,found]
    constructor
    · intro far
      exact ⟨name,v,rfl,far⟩
    · intro held
      obtain ⟨_,_,same,far⟩ := held
      cases same
      exact far
  · rename_i missing
    simp [under_overflow,missing]

theorem given_overflow {default : α} :
    given key default check fields = overflow ↔ ∃ name v, key.find? fields = some (name,v) ∧ check v = overflow := by
  unfold given
  split
  · rename_i name v found
    rw [under_overflow,found]
    constructor
    · intro far
      exact ⟨name,v,rfl,far⟩
    · intro held
      obtain ⟨_,_,same,far⟩ := held
      cases same
      exact far
  · rename_i missing
    simp [missing]

theorem optional_overflow {v : Json} : optional check v = overflow ↔ v ≠ .null ∧ check v = overflow := by
  cases v <;> simp [optional,map_overflow]

theorem needed_settled (settles : Settles check) : needed key check fields ≠ overflow := by
  intro far
  obtain ⟨_,v,-,given⟩ := needed_overflow.mp far
  exact settles v given

theorem given_settled {default : α} (settles : Settles check) : given key default check fields ≠ overflow := by
  intro far
  obtain ⟨_,v,-,given⟩ := given_overflow.mp far
  exact settles v given

theorem optional_settles (settles : Settles check) : Settles (optional check) := by
  intro v far
  exact settles v (optional_overflow.mp far).2

theorem list_settles (settles : Settles check) : Settles (list check) := by
  have items (given : List Json) (place : Nat) : itemsFrom check place given ≠ overflow := by
    induction given generalizing place with
    | nil => simp [itemsFrom]
    | cons v rest ih =>
      exact zipWith_settled (under_settled (settles v)) (ih (place + 1))
  intro v
  cases v with
  | arr given => exact items given 0
  | _ => simp [list]

end

theorem text_settles : Settles text := by
  intro v
  cases v <;> simp [text]

theorem nonEmpty_settles : Settles nonEmptyText := by
  intro v
  apply andThen_settled (text_settles v)
  intro s
  split <;> simp

theorem choice_settles (choices : List (String × α)) : Settles (oneOf choices) := by
  intro v
  unfold oneOf
  split <;> simp

-- A whole number too large for a float is no number here.
theorem number_settles : Settles number := by
  intro v
  fun_cases number v <;> simp

theorem within_settles (bounds : List Bound) (x : Number) (value : α) : within bounds x value ≠ overflow := by
  unfold within
  split <;> simp

theorem boundedNumber_settles (bounds : List Bound) : Settles (boundedNumber bounds) := by
  intro v
  apply andThen_settled (number_settles v)
  intro x
  exact within_settles bounds _ x

theorem positive_settles : Settles positive := boundedNumber_settles _

theorem percent_settles : Settles percent := boundedNumber_settles _

theorem whole_settles : Settles whole := by
  intro v
  fun_cases whole v <;> simp

theorem wholeAtLeast_settles (limit : Nat) : Settles (wholeAtLeast limit) := by
  intro v
  apply andThen_settled (whole_settles v)
  intro n
  exact within_settles _ _ n

end Validation
end OrderDesk
