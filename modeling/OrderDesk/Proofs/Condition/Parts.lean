import OrderDesk.Fault
import OrderDesk.Validation.Fields

-- The parts of a document, in its order, and what a result tells of them. Each part is known by its path and
-- has a check of its own; a result that refuses the document names the first part that does not pass, and a
-- field can be missing only at the end of a path.
namespace OrderDesk
open Checked Validation

namespace Json

def step? : PathStep → Json → Option Json
  | .key name,.obj fields => Fields.get? name fields
  | .index place,.arr items => items[place]?
  | _,_ => none

def at? : List PathStep → Json → Option Json
  | [],v => some v
  | step :: rest,v => (step? step v).bind (at? rest)

end Json

-- The steps that condition trees are made of.
def PathStep.Known : PathStep → Prop
  | .key name => name ∈ ["field","operator","value","conditions"]
  | .index _ => True

instance : DecidablePred PathStep.Known
  | .key name => inferInstanceAs (Decidable (name ∈ ["field","operator","value","conditions"]))
  | .index _ => inferInstanceAs (Decidable True)

-- Their order where they part ways: in a group the operator comes before the children, and those from left to right; in a leaf the
-- field comes first and the value last.
def PathStep.Ahead : PathStep → PathStep → Prop
  | .key a,.key b => (a,b) ∈ [("operator","conditions"),("field","operator"),("field","value"),("operator","value")]
  | .index a,.index b => a < b
  | _,_ => False

-- The order of a document, a whole before what is in it.
inductive Before : List PathStep → List PathStep → Prop where
  | whole {step : PathStep} {rest : List PathStep} : Before [] (step :: rest)
  | apart {a b : PathStep} {first second : List PathStep} (ahead : a.Ahead b) : Before (a :: first) (b :: second)
  | within {step : PathStep} {first second : List PathStep} (before : Before first second) : Before (step :: first) (step :: second)

theorem PathStep.Ahead.asymm {a b : PathStep} (ahead : a.Ahead b) : ¬ b.Ahead a := by
  cases a with
  | key one =>
    cases b with
    | key other =>
      simp only [Ahead,List.mem_cons,Prod.mk.injEq,List.not_mem_nil,or_false] at ahead
      obtain ⟨rfl,rfl⟩ | ⟨rfl,rfl⟩ | ⟨rfl,rfl⟩ | ⟨rfl,rfl⟩ := ahead <;> simp [Ahead]
    | index place => cases ahead
  | index place =>
    cases b with
    | key name => cases ahead
    | index other => exact Nat.lt_asymm ahead

theorem Before.asymm {first second : List PathStep} (before : Before first second) : ¬ Before second first := by
  induction before with
  | whole => exact nofun
  | apart ahead =>
    intro back
    cases back with
    | apart behind => exact ahead.asymm behind
    | within _ => exact ahead.asymm ahead
  | within _ ih =>
    intro back
    cases back with
    | apart ahead => exact ahead.asymm ahead
    | within own => exact ih own

-- A path all of whose steps are there, except that the field at its end may be missing.
inductive Json.Leads : Json → List PathStep → Prop where
  | here {v : Json} : Leads v []
  | lost {fields : Fields} {name : String} (known : (PathStep.key name).Known) (absent : fields.get? name = none) :
      Leads (.obj fields) [.key name]
  | down {v inner : Json} {step : PathStep} {path : List PathStep} (known : step.Known) (found : v.step? step = some inner)
      (rest : Leads inner path) : Leads v (step :: path)

-- A record that is there, without the field that the path ends with.
def Json.Lacks (v : Json) (path : List PathStep) : Prop :=
  ∃ (outer : List PathStep) (name : String) (fields : Fields),
    path = outer ++ [.key name] ∧ v.at? outer = some (.obj fields) ∧ fields.get? name = none

namespace Json

theorem at_append (first last : List PathStep) (v : Json) : v.at? (first ++ last) = (v.at? first).bind (at? last) := by
  induction first generalizing v with
  | nil => rfl
  | cons step rest ih =>
    rw [List.cons_append,at?,at?]
    cases step? step v with
    | none => rfl
    | some u => exact ih u

theorem Leads.lacks {v : Json} {path : List PathStep} (leads : v.Leads path) : v.Lacks path ↔ v.at? path = none := by
  constructor
  · intro lacks
    obtain ⟨outer,name,fields,rfl,found,absent⟩ := lacks
    rw [at_append,found,Option.bind_some,at?,step?,absent,Option.bind_none]
  · intro lost
    induction leads with
    | here => cases lost
    | lost known absent => exact ⟨[],_,_,rfl,rfl,absent⟩
    | down known found rest ih =>
      rw [at?,found,Option.bind_some] at lost
      obtain ⟨outer,name,fields,rfl,held,absent⟩ := ih lost
      refine ⟨_ :: outer,name,fields,rfl,?_,absent⟩
      rw [at?,found,Option.bind_some]
      exact held

end Json

namespace Checked

-- A refusal of the value itself, which is there.
def Bare (x : Checked α) : Prop := ∀ first rest, x = invalid first rest → first.path = [] ∧ rest = [] ∧ first.reason ≠ .missing

theorem bare_ok (a : α) : Bare (ok a) := by
  intro first rest same
  cases same

theorem bare_overflow : Bare (overflow : Checked α) := by
  intro first rest same
  cases same

theorem bare_refuse {reason : Reason} (other : reason ≠ .missing) : Bare (refuse reason : Checked α) := by
  intro first rest same
  cases same
  exact ⟨rfl,rfl,other⟩

-- A rule is broken by what is there.
theorem bare_rule (message : String) : (refuse (.rule message) : Checked α).Bare := bare_refuse nofun

theorem Bare.map {f : α → β} {x : Checked α} (bare : x.Bare) : (x.map f).Bare := by
  cases x with
  | ok a => exact bare_ok _
  | invalid first rest =>
    intro other more same
    cases same
    exact bare first rest rfl
  | overflow => exact bare_overflow

theorem Bare.andThen {x : Checked α} {next : α → Checked β} (bare : x.Bare) (later : ∀ a, (next a).Bare) :
    (x.andThen next).Bare := by
  cases x with
  | ok a => exact later a
  | invalid first rest =>
    intro other more same
    cases same
    exact bare first rest rfl
  | overflow => exact bare_overflow

theorem Bare.refused {x : Checked α} {first : Issue} {rest : List Issue} (bare : x.Bare) (same : x = invalid first rest) :
    x = refuse first.reason := by
  obtain ⟨path,more,-⟩ := bare first rest same
  obtain ⟨reason,steps⟩ := first
  cases path
  cases more
  exact same

end Checked

namespace Validation

theorem text_bare (v : Json) : (text v).Bare := by
  cases v with
  | str s => exact bare_ok s
  | _ => exact bare_refuse nofun

theorem nonEmpty_bare (v : Json) : (nonEmptyText v).Bare := by
  apply (text_bare v).andThen
  intro s
  split
  · exact bare_refuse nofun
  · exact bare_ok s

theorem choice_bare (choices : List (String × α)) (v : Json) : (oneOf choices v).Bare := by
  unfold oneOf
  split
  · exact bare_ok _
  · exact bare_refuse nofun

-- What a check says of a value that may not be there.
def asked (check : Check α) : Option Json → Checked α
  | none => refuse .missing
  | some v => check v

theorem needed_asked (name : String) (check : Check α) (fields : Fields) :
    needed (.ofName name) check fields = (asked check (fields.get? name)).under (.key name) := by
  simp only [needed,Key.find?,Key.ofName]
  cases fields.get? name <;> rfl

end Validation

-- A part of a document: the path to it, and the check that is made of what stands there.
structure Part where
  path : List PathStep
  check : Check Unit
  bare : ∀ v, (check v).Bare

namespace Part

def ofCheck (path : List PathStep) (check : Check α) (bare : ∀ v, (check v).Bare) : Part :=
  ⟨path,fun v => (check v).map fun _ => (),fun v => (bare v).map⟩

def inside (step : PathStep) (part : Part) : Part := {part with path := step :: part.path}

def verdict (raw : Json) (part : Part) : Checked Unit := asked part.check (raw.at? part.path)

theorem verdict_inside {raw inner : Json} {step : PathStep} (found : raw.step? step = some inner) (part : Part) :
    (part.inside step).verdict raw = part.verdict inner := by
  rw [verdict,inside,Json.at?,found]
  rfl

theorem verdict_ofCheck (raw : Json) (path : List PathStep) (check : Check α) (bare : ∀ v, (check v).Bare) :
    (ofCheck path check bare).verdict raw = (asked check (raw.at? path)).map fun _ => () := by
  rw [verdict,ofCheck]
  cases raw.at? path <;> rfl

-- A part that does not pass, and the issue with it.
structure Fails (raw : Json) (part : Part) (issue : Issue) : Prop where
  place : part.path = issue.path
  leads : raw.Leads issue.path
  refused : part.verdict raw = refuse issue.reason

theorem Fails.inside {raw inner : Json} {step : PathStep} {part : Part} {issue : Issue} (known : step.Known)
    (found : raw.step? step = some inner) (fails : part.Fails inner issue) :
    (part.inside step).Fails raw {issue with path := step :: issue.path} where
  place := congrArg (step :: ·) fails.place
  leads := .down known found fails.leads
  refused := (verdict_inside found part).trans fails.refused

-- Only a field that is not there is found missing.
theorem Fails.missing {raw : Json} {part : Part} {issue : Issue} (fails : part.Fails raw issue) :
    issue.reason = .missing ↔ raw.at? issue.path = none := by
  have refused := fails.refused
  rw [verdict,fails.place] at refused
  constructor
  · intro missing
    cases found : raw.at? issue.path with
    | none => rfl
    | some v =>
      rw [found] at refused
      exact absurd missing (part.bare v _ _ refused).2.2
  · intro lost
    rw [lost] at refused
    cases issue
    cases refused
    rfl

-- The first part of a document that does not pass.
def First (raw : Json) (parts : List Part) (issue : Issue) : Prop :=
  ∃ before part after, parts = before ++ part :: after ∧ (∀ earlier ∈ before, earlier.verdict raw = ok ()) ∧ part.Fails raw issue

theorem First.alone {raw : Json} {part : Part} {issue : Issue} (fails : part.Fails raw issue) : First raw [part] issue :=
  ⟨[],part,[],rfl,List.forall_mem_nil _,fails⟩

-- Parts in the order of their document.
def Sorted (parts : List Part) : Prop := parts.Pairwise fun a b => Before a.path b.path

theorem Sorted.inside {parts : List Part} (sorted : Sorted parts) (step : PathStep) : Sorted (parts.map (Part.inside step)) :=
  List.pairwise_map.mpr (sorted.imp .within)

theorem First.earlier {raw : Json} {parts : List Part} {issue : Issue} (first : First raw parts issue) (sorted : Sorted parts) :
    ∀ part ∈ parts, Before part.path issue.path → part.verdict raw = ok () := by
  obtain ⟨before,failing,after,same,passed,fails⟩ := first
  intro part member earlier
  rw [← fails.place] at earlier
  rw [same,Sorted,List.pairwise_append,List.pairwise_cons] at sorted
  obtain ⟨-,⟨later,-⟩,-⟩ := sorted
  rw [same,List.mem_append,List.mem_cons] at member
  obtain own | rfl | own := member
  · exact passed part own
  · exact absurd earlier earlier.asymm
  · exact absurd earlier (later part own).asymm

end Part

-- What a result tells of the parts of a document.
def Checked.Tells (raw : Json) (parts : List Part) : Checked α → Prop
  | ok _ => ∀ part ∈ parts, part.verdict raw = ok ()
  | invalid first _ => Part.First raw parts first
  | overflow => ∃ part ∈ parts, part.verdict raw = overflow

namespace Checked

theorem Tells.map {raw : Json} {parts : List Part} {x : Checked α} {f : α → β} (told : x.Tells raw parts) :
    (x.map f).Tells raw parts := by
  cases x <;> exact told

theorem Tells.zipWith {raw : Json} {one other : List Part} {x : Checked α} {y : Checked β} {f : α → β → γ}
    (first : x.Tells raw one) (second : y.Tells raw other) : (zipWith f x y).Tells raw (one ++ other) := by
  cases x with
  | ok a =>
    cases y with
    | ok b =>
      intro part member
      cases List.mem_append.mp member with
      | inl own => exact first part own
      | inr own => exact second part own
    | invalid issue more =>
      obtain ⟨before,part,after,same,passed,failed⟩ := second
      refine ⟨one ++ before,part,after,by rw [same,List.append_assoc],?_,failed⟩
      intro earlier member
      cases List.mem_append.mp member with
      | inl own => exact first earlier own
      | inr own => exact passed earlier own
    | overflow =>
      obtain ⟨part,member,far⟩ := second
      exact ⟨part,List.mem_append_right _ member,far⟩
  | invalid issue more =>
    cases y with
    | overflow =>
      obtain ⟨part,member,far⟩ := second
      exact ⟨part,List.mem_append_right _ member,far⟩
    | _ =>
      obtain ⟨before,part,after,same,failed⟩ := first
      exact ⟨before,part,after ++ other,by simp [same],failed⟩
  | overflow =>
    obtain ⟨part,member,far⟩ := first
    exact ⟨part,List.mem_append_left _ member,far⟩

theorem Tells.under {raw inner : Json} {step : PathStep} {parts : List Part} {x : Checked α} (known : step.Known)
    (found : raw.step? step = some inner) (told : x.Tells inner parts) : (x.under step).Tells raw (parts.map (Part.inside step)) := by
  have verdicts {answer : Checked Unit} {own : List Part} (alike : ∀ part ∈ own, part.verdict inner = answer) :
      ∀ part ∈ own.map (Part.inside step), part.verdict raw = answer := by
    intro part member
    obtain ⟨among,held,rfl⟩ := List.mem_map.mp member
    exact (Part.verdict_inside found among).trans (alike among held)
  cases x with
  | ok a => exact verdicts told
  | invalid issue more =>
    obtain ⟨before,part,after,same,passed,fails⟩ := told
    exact ⟨before.map (Part.inside step),part.inside step,after.map (Part.inside step),by simp [same],verdicts passed,
      fails.inside known found⟩
  | overflow =>
    obtain ⟨part,member,far⟩ := told
    exact ⟨part.inside step,List.mem_map_of_mem member,(Part.verdict_inside found part).trans far⟩

theorem Tells.cons {raw : Json} {part : Part} {parts : List Part} {x : Checked α} (passes : part.verdict raw = ok ())
    (told : x.Tells raw parts) : x.Tells raw (part :: parts) := by
  cases x with
  | ok a => exact List.forall_mem_cons.mpr ⟨passes,told⟩
  | invalid issue more =>
    obtain ⟨before,failing,after,same,passed,failed⟩ := told
    exact ⟨part :: before,failing,after,by rw [same,List.cons_append],List.forall_mem_cons.mpr ⟨passes,passed⟩,failed⟩
  | overflow =>
    obtain ⟨late,member,far⟩ := told
    exact ⟨late,List.mem_cons_of_mem part member,far⟩

-- The whole of a document, as the only part of it.
theorem tells_whole {v : Json} {check : Check α} (bare : ∀ v, (check v).Bare) : (check v).Tells v [.ofCheck [] check bare] := by
  have verdict : (Part.ofCheck [] check bare).verdict v = (check v).map fun _ => () := Part.verdict_ofCheck v [] check bare
  cases read : check v with
  | ok a =>
    rw [read] at verdict
    exact List.forall_mem_singleton.mpr verdict
  | invalid issue more =>
    rw [(bare v).refused read] at verdict
    obtain ⟨place,-,-⟩ := bare v issue more read
    exact .alone ⟨place.symm,place ▸ .here,verdict⟩
  | overflow =>
    rw [read] at verdict
    exact ⟨_,List.mem_singleton_self _,verdict⟩

end Checked

theorem Validation.needed_tells {name : String} {check : Check α} (bare : ∀ v, (check v).Bare) (known : (PathStep.key name).Known)
    (fields : Fields) : (needed (.ofName name) check fields).Tells (.obj fields) [.ofCheck [.key name] check bare] := by
  rw [needed_asked]
  cases held : fields.get? name with
  | none =>
    refine .alone ⟨rfl,.lost known held,?_⟩
    rw [Part.verdict_ofCheck,Json.at?,Json.step?,held]
    rfl
  | some v =>
    have found : (Json.obj fields).step? (.key name) = some v := held
    exact (tells_whole bare).under known found

theorem Text.head_append {front : String} (filled : front ≠ "") (rest : String) :
    (front ++ rest).toList.head? = front.toList.head? := by
  rw [String.toList_append]
  cases letters : front.toList with
  | nil => exact absurd (String.toList_eq_nil_iff.mp letters) filled
  | cons c others => rfl

-- Messages are sentences; only the one for a missing field has no capital.
theorem Reason.message_sentence (reason : Reason) : reason.message.toList.head? ≠ some 'r' := by
  unfold message
  cases reason with
  | outside _ | notOneOf _ | notMember _ | notRecord _ | unreadableMoment _ | tooMany _ | rule _ =>
    dsimp only
    rw [Text.head_append (by decide +kernel)]
    decide +kernel
  | unknownTag _ _ =>
    dsimp only
    rw [String.append_assoc,String.append_assoc,Text.head_append (by decide +kernel)]
    decide +kernel
  | _ => decide +kernel

theorem Issue.summary_missing (issue : Issue) : issue.summary = "required field is missing" ↔ issue.reason = .missing := by
  unfold summary
  split
  · rename_i missing
    simp [missing]
  · rename_i other
    constructor
    · intro same
      have small : "required field is missing".toList.head? = some 'r' := by decide +kernel
      exact absurd (same ▸ small) issue.reason.message_sentence
    · intro missing
      exact absurd missing other

theorem Issue.place_under (issue : Issue) {root : String} (named : root ≠ "") :
    issue.place root = ".".intercalate (root :: issue.path.map PathStep.text) := by
  have filled : ".".intercalate (root :: issue.path.map PathStep.text) ≠ "" := by
    cases issue.path with
    | nil => simpa using named
    | cons step rest => simp
  rw [place,if_neg named,if_neg filled]

end OrderDesk
