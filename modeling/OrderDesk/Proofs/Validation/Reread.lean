import OrderDesk.Fault
import OrderDesk.Validation.Fields

-- Checks that take their own values back. A value that a check has let through is written in one way, and the
-- check lets that through again, as the same value.
namespace OrderDesk

namespace Checked

theorem zipWith_eq_ok {f : α → β → γ} {a : Checked α} {b : Checked β} {c : γ} :
    zipWith f a b = ok c ↔ ∃ x y, a = ok x ∧ b = ok y ∧ f x y = c := by
  cases a <;> cases b <;> simp [zipWith]

theorem map_eq_ok {f : α → β} {a : Checked α} {b : β} : a.map f = ok b ↔ ∃ x, a = ok x ∧ f x = b := by
  cases a <;> simp [map]

theorem functor_eq_ok {α β : Type} {f : α → β} {a : Checked α} {b : β} :
    f <$> a = ok b ↔ ∃ x, a = ok x ∧ f x = b := map_eq_ok

theorem seq_eq_ok {α β : Type} {f : Checked (α → β)} {a : Checked α} {b : β} :
    f <*> a = ok b ↔ ∃ g x, f = ok g ∧ a = ok x ∧ g x = b := zipWith_eq_ok

theorem andThen_eq_ok {a : Checked α} {next : α → Checked β} {b : β} :
    a.andThen next = ok b ↔ ∃ x, a = ok x ∧ next x = ok b := by
  cases a <;> simp [andThen]

theorem under_eq_ok {step : PathStep} {a : Checked α} {x : α} : a.under step = ok x ↔ a = ok x := by
  cases a <;> simp [under]

theorem orFault_eq_ok {root : String} {a : Checked α} {x : α} : a.orFault root = .ok x ↔ a = ok x := by
  cases a <;> simp [orFault]

theorem toOption_eq_some {answer : Except Fault α} {x : α} : answer.toOption = some x ↔ answer = .ok x := by
  cases answer <;> simp [Except.toOption]

@[simp] theorem under_ok (step : PathStep) (a : α) : (ok a).under step = ok a := rfl

@[simp] theorem map_ok (f : α → β) (a : α) : (ok a).map f = ok (f a) := rfl

@[simp] theorem functor_ok {α β : Type} (f : α → β) (a : α) : f <$> (ok a) = ok (f a) := rfl

@[simp] theorem seq_ok {α β : Type} (f : α → β) (a : α) : (ok f <*> ok a : Checked β) = ok (f a) := rfl

@[simp] theorem zipWith_ok (f : α → β → γ) (a : α) (b : β) : zipWith f (ok a) (ok b) = ok (f a b) := rfl

@[simp] theorem andThen_ok (a : α) (next : α → Checked β) : (ok a).andThen next = next a := rfl

@[simp] theorem refuse_ne_ok (reason : Reason) (a : α) : (refuse reason : Checked α) ≠ ok a := by
  simp [refuse]

end Checked

namespace Validation
open Checked

def Rereads (check : Check α) (write : α → Json) : Prop := ∀ v a, check v = ok a → check (write a) = ok a

theorem text_rereads : Rereads text .str := by
  intro v s read
  rfl

theorem nonEmpty_ok {v : Json} {s : String} (read : nonEmptyText v = ok s) : s ≠ "" := by
  obtain ⟨t,-,kept⟩ := andThen_eq_ok.mp read
  split at kept
  · simp at kept
  · cases kept
    assumption

theorem nonEmpty_rereads : Rereads nonEmptyText .str := by
  intro v s read
  simp [nonEmptyText,text,nonEmpty_ok read]

theorem optional_written {check : Check α} {write : α → Json} (value : ∀ a, write a ≠ .null) {a : α}
    (again : check (write a) = ok a) : optional check (write a) = ok (some a) := by
  cases written : write a with
  | null => exact absurd written (value a)
  | _ =>
    rw [written] at again
    simp [optional,again]

theorem optional_ok {check : Check α} {v : Json} {a : α} (read : optional check v = ok (some a)) : check v = ok a := by
  cases v with
  | null => simp [optional] at read
  | _ => simpa [optional,map_eq_ok] using read

theorem optional_rereads {check : Check α} {write : α → Json} (value : ∀ a, write a ≠ .null)
    (rereads : Rereads check write) : Rereads (optional check) (Json.ofOption write) := by
  intro v a read
  cases a with
  | none => rfl
  | some a => exact optional_written value (rereads v a (optional_ok read))

theorem itemsFrom_written {check : Check α} {write : α → Json} (items : List α)
    (again : ∀ a ∈ items, check (write a) = ok a) (place : Nat) : itemsFrom check place (items.map write) = ok items := by
  induction items generalizing place with
  | nil => rfl
  | cons a rest ih =>
    have first := again a List.mem_cons_self
    have others := ih (fun b member => again b (List.mem_cons_of_mem a member)) (place + 1)
    simp [itemsFrom,first,others]

theorem itemsFrom_ok {check : Check α} {items : List Json} {place : Nat} {read : List α}
    (taken : itemsFrom check place items = ok read) : ∀ a ∈ read, ∃ v, check v = ok a := by
  induction items generalizing place read with
  | nil =>
    cases taken
    simp
  | cons v rest ih =>
    obtain ⟨first,others,firstTaken,othersTaken,same⟩ := zipWith_eq_ok.mp taken
    subst same
    intro a member
    rcases List.mem_cons.mp member with rfl | later
    · exact ⟨v,under_eq_ok.mp firstTaken⟩
    · exact ih othersTaken a later

theorem list_rereads {check : Check α} {write : α → Json} (rereads : Rereads check write) :
    Rereads (list check) fun items => .arr (items.map write) := by
  intro v items read
  have held : ∀ a ∈ items, ∃ v, check v = ok a := by
    cases v with
    | arr given => exact itemsFrom_ok read
    | _ => simp [list] at read
  refine itemsFrom_written items ?_ 0
  intro a member
  obtain ⟨v,taken⟩ := held a member
  exact rereads v a taken

theorem within_ok {bounds : List Bound} {x : Number} {value a : α} (held : within bounds x value = ok a) : a = value := by
  unfold within at held
  split at held
  · simp at held
  · cases held; rfl

theorem within_admitted {bounds : List Bound} {x : Number} {value a : α} (held : within bounds x value = ok a) :
    ∀ bound ∈ bounds, Bound.admits x bound = true := by
  unfold within at held
  split at held
  · simp at held
  · rename_i kept
    simpa using kept

theorem within_all {bounds : List Bound} {x : Number} (value : α) (held : ∀ bound ∈ bounds, Bound.admits x bound = true) :
    within bounds x value = ok value := by
  have none : bounds.find? (fun bound => !Bound.admits x bound) = none := by
    simpa using held
  rw [within,none]

theorem boundedNumber_float (bounds : List Bound) (x : Binary64) :
    boundedNumber bounds (.float x) = within bounds (.float x) x := rfl

theorem boundedNumber_rereads (bounds : List Bound) : Rereads (boundedNumber bounds) .float := by
  intro v a read
  obtain ⟨x,-,held⟩ := andThen_eq_ok.mp read
  have same := within_ok held
  subst same
  exact held

theorem boundedNumber_admitted {bounds : List Bound} {v : Json} {a : Binary64} (read : boundedNumber bounds v = ok a) :
    ∀ bound ∈ bounds, Bound.admits (.float a) bound = true := by
  obtain ⟨x,-,held⟩ := andThen_eq_ok.mp read
  have same := within_ok held
  subst same
  exact within_admitted held

theorem positive_rereads : Rereads positive .float := boundedNumber_rereads _

theorem percent_rereads : Rereads percent .float := boundedNumber_rereads _

theorem wholeAtLeast_rereads (limit : Nat) : Rereads (wholeAtLeast limit) .int := by
  intro v a read
  obtain ⟨n,-,held⟩ := andThen_eq_ok.mp read
  have same := within_ok held
  subst same
  exact held

theorem needed_ok {key : Key} {check : Check α} {fields : Fields} {a : α} (read : needed key check fields = ok a) :
    ∃ v, check v = ok a := by
  unfold needed at read
  split at read
  · exact ⟨_,under_eq_ok.mp read⟩
  · simp [under_eq_ok] at read

theorem needed_eq_ok {key : Key} {check : Check α} {fields : Fields} {a : α} :
    needed key check fields = ok a ↔ ∃ name v, key.find? fields = some (name,v) ∧ check v = ok a := by
  rw [needed]
  cases found : key.find? fields with
  | none => simp [under_eq_ok]
  | some given =>
    rw [under_eq_ok]
    constructor
    · exact fun read => ⟨given.1,given.2,rfl,read⟩
    · rintro ⟨name,v,same,read⟩
      cases same
      exact read

theorem given_ok {key : Key} {default : α} {check : Check α} {fields : Fields} {a : α}
    (read : given key default check fields = ok a) : (∃ v, check v = ok a) ∨ a = default := by
  unfold given at read
  split at read
  · exact Or.inl ⟨_,under_eq_ok.mp read⟩
  · cases read
    exact Or.inr rfl

theorem option_ok {key : Key} {check : Check α} {fields : Fields} {a : α}
    (read : given key none (optional check) fields = ok (some a)) : ∃ v, check v = ok a := by
  rcases given_ok read with ⟨v,taken⟩ | absent
  · exact ⟨v,optional_ok taken⟩
  · cases absent

-- Fields as they are shown: some that are null may be left out.
def Shows (shown whole : Fields) : Prop :=
  ∀ name, shown.get? name = whole.get? name ∨ (shown.get? name = none ∧ whole.get? name = some .null)

theorem Shows.refl (fields : Fields) : Shows fields fields := fun _ => Or.inl rfl

theorem get_absent {name : String} {fields : Fields} (absent : name ∉ fields.map Prod.fst) : fields.get? name = none := by
  have none : fields.find? (fun field => field.1 == name) = none := by
    rw [List.find?_eq_none]
    intro field member same
    rw [beq_iff_eq] at same
    exact absent (List.mem_map.mpr ⟨field,member,same⟩)
  rw [Fields.get?,none,Option.map_none]

theorem get_cons (name : String) (field : String × Json) (fields : Fields) :
    Fields.get? name (field :: fields) = if field.1 = name then some field.2 else Fields.get? name fields := by
  by_cases same : field.1 = name <;> simp [Fields.get?,same]

theorem Shows.filled {fields : Fields} (unique : (fields.map Prod.fst).Nodup) :
    Shows (fields.filter fun field => !field.2.isNull) fields := by
  induction fields with
  | nil => exact Shows.refl []
  | cons field rest ih =>
    obtain ⟨fresh,unique⟩ := List.nodup_cons.mp unique
    intro name
    have later := ih unique name
    by_cases null : field.2 = .null
    · have hidden : (field :: rest).filter (fun field => !field.2.isNull) = rest.filter (fun field => !field.2.isNull) := by
        simp [null,Json.isNull]
      rw [hidden,get_cons]
      by_cases same : field.1 = name
      · rw [if_pos same,null]
        subst name
        rw [get_absent fresh] at later
        exact Or.inr ⟨later.elim id (fun empty => empty.1),rfl⟩
      · rw [if_neg same]
        exact later
    · have kept : (field :: rest).filter (fun field => !field.2.isNull) =
          field :: rest.filter (fun field => !field.2.isNull) := by
        cases value : field.2 with
        | null => exact absurd value null
        | _ => simp [value,Json.isNull]
      rw [kept,get_cons,get_cons]
      by_cases same : field.1 = name
      · rw [if_pos same,if_pos same]
        exact Or.inl rfl
      · rw [if_neg same,if_neg same]
        exact later

theorem set_same {name : String} {v : Json} {fields : Fields} (held : fields.get? name = some v) :
    Fields.set name v fields = fields := by
  induction fields with
  | nil => simp [Fields.get?] at held
  | cons field rest ih =>
    rw [get_cons] at held
    by_cases same : field.1 = name
    · rw [if_pos same] at held
      simp [Fields.set,same,← Option.some.inj held]
      rw [← same]
    · rw [if_neg same] at held
      simp [Fields.set,same,ih held]

theorem Shows.find {shown whole : Fields} (shows : Shows shown whole) {name : String} {v : Json}
    (held : whole.get? name = some v) (value : v ≠ .null) : shown.get? name = some v := by
  rcases shows name with same | ⟨-,null⟩
  · rw [same,held]
  · rw [held] at null
    exact absurd (Option.some.inj null) value

section
variable {shown whole fields : Fields} {key : Key} {check : Check α} {write : α → Json} {a : α}

theorem Shows.needed (shows : Shows shown whole) (rereads : Rereads check write)
    (read : Validation.needed key check fields = ok a) (held : whole.get? key.wire = some (write a))
    (value : write a ≠ .null) : Validation.needed key check shown = ok a := by
  obtain ⟨v,taken⟩ := needed_ok read
  simp [Validation.needed,Key.find?,shows.find held value,rereads v a taken]

-- A default has to pass its own check, and only a default is written as null.
theorem Shows.given {default : α} (shows : Shows shown whole) (rereads : Rereads check write)
    (ownCheck : check (write default) = ok default) (read : Validation.given key default check fields = ok a)
    (held : whole.get? key.wire = some (write a)) (plain : whole.get? key.plain = none ∨ key.plain = key.wire)
    (null : write a = .null → a = default) : Validation.given key default check shown = ok a := by
  have again : check (write a) = ok a := by
    rcases given_ok read with ⟨v,taken⟩ | rfl
    · exact rereads v a taken
    · exact ownCheck
  rcases shows key.wire with same | ⟨hidden,empty⟩
  · simp [Validation.given,Key.find?,same,held,again]
  · rw [held] at empty
    have absent : shown.get? key.plain = none := by
      rcases plain with absent | named
      · rcases shows key.plain with same | ⟨hidden,-⟩
        · rw [same,absent]
        · exact hidden
      · rw [named,hidden]
    simp [Validation.given,Key.find?,hidden,absent,null (Option.some.inj empty)]

theorem Shows.option {a : Option α} (shows : Shows shown whole) (rereads : Rereads check write)
    (value : ∀ a, write a ≠ .null) (read : Validation.given key none (optional check) fields = ok a)
    (held : whole.get? key.wire = some (Json.ofOption write a))
    (plain : whole.get? key.plain = none ∨ key.plain = key.wire) :
    Validation.given key none (optional check) shown = ok a := by
  refine shows.given (optional_rereads value rereads) rfl read held plain ?_
  intro null
  cases a with
  | none => rfl
  | some a => exact absurd null (value a)

end

end Validation
end OrderDesk
