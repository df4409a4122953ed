import OrderDesk.Json.Basic

-- What validation finds wrong: a reason, and the path from the checked value to the place. `Checked` is the
-- result of a check that goes on after an issue, so that all of them are reported together.
namespace OrderDesk

-- A number written in a rule, as messages show it.
inductive Bound where
  | above (limit : Nat)
  | atLeast (limit : Nat)
  | below (limit : Nat)
  | atMost (limit : Nat)
deriving DecidableEq

inductive DateProblem where
  | tooShort
  | year
  | separator
  | month
  | day
  | monthRange
  | dayRange
  | extra
  | tooLate
  | tooEarly
deriving DecidableEq

inductive Reason where
  | missing
  | notText
  | emptyText
  | notNumber
  | unreadableNumber
  | notFinite
  | notWhole
  | fractional
  | unreadableWhole
  | wholeTooLong
  | notTruth
  | unreadableTruth
  | outside (bound : Bound)
  | notOneOf (choices : List String)
  | notMember (choices : List String)
  | notList
  | notPair
  | tooMany (given : Nat)
  | notMapping
  | notRecord (name : String)
  | notMoment
  | momentNaN
  | momentTooLate
  | momentTooEarly
  | unreadableMoment (problem : DateProblem)
  | unknownTag (tag : String) (choices : List String)
  | missingTag
  | rule (message : String)
deriving DecidableEq

-- Choices in quotes, the last one after `or`.
def choiceText : List String → String
  | [] => ""
  | [last] => s!"'{last}'"
  | [first,last] => s!"'{first}' or '{last}'"
  | first :: rest => s!"'{first}', " ++ choiceText rest

def Bound.code : Bound → String
  | above _ => "greater_than"
  | atLeast _ => "greater_than_equal"
  | below _ => "less_than"
  | atMost _ => "less_than_equal"

def Bound.text : Bound → String
  | above limit => s!"greater than {limit}"
  | atLeast limit => s!"greater than or equal to {limit}"
  | below limit => s!"less than {limit}"
  | atMost limit => s!"less than or equal to {limit}"

def DateProblem.text : DateProblem → String
  | tooShort => "input is too short"
  | year => "invalid character in year"
  | separator => "invalid date separator, expected `-`"
  | month => "invalid character in month"
  | day => "invalid character in day"
  | monthRange => "month value is outside expected range of 1-12"
  | dayRange => "day value is outside expected range"
  | extra => "unexpected extra characters at the end of the input"
  | tooLate => "dates after 9999 are not supported as unix timestamps"
  | tooEarly => "dates before 1600 are not supported as unix timestamps"

namespace Reason

-- The short name of a reason in reports.
def code : Reason → String
  | missing => "missing"
  | notText => "string_type"
  | emptyText => "string_too_short"
  | notNumber => "float_type"
  | unreadableNumber => "float_parsing"
  | notFinite => "finite_number"
  | notWhole => "int_type"
  | fractional => "int_from_float"
  | unreadableWhole => "int_parsing"
  | wholeTooLong => "int_parsing_size"
  | notTruth => "bool_type"
  | unreadableTruth => "bool_parsing"
  | outside bound => bound.code
  | notOneOf _ => "literal_error"
  | notMember _ => "enum"
  | notList => "list_type"
  | notPair => "tuple_type"
  | tooMany _ => "too_long"
  | notMapping => "dict_type"
  | notRecord _ => "model_type"
  | notMoment => "datetime_type"
  | momentNaN | momentTooLate | momentTooEarly => "datetime_parsing"
  | unreadableMoment _ => "datetime_from_date_parsing"
  | unknownTag .. => "union_tag_invalid"
  | missingTag => "union_tag_not_found"
  | rule _ => "value_error"

def message : Reason → String
  | missing => "Field required"
  | notText => "Input should be a valid string"
  | emptyText => "String should have at least 1 character"
  | notNumber => "Input should be a valid number"
  | unreadableNumber => "Input should be a valid number, unable to parse string as a number"
  | notFinite => "Input should be a finite number"
  | notWhole => "Input should be a valid integer"
  | fractional => "Input should be a valid integer, got a number with a fractional part"
  | unreadableWhole => "Input should be a valid integer, unable to parse string as an integer"
  | wholeTooLong => "Unable to parse input string as an integer, exceeded maximum size"
  | notTruth => "Input should be a valid boolean"
  | unreadableTruth => "Input should be a valid boolean, unable to interpret input"
  | outside bound => "Input should be " ++ bound.text
  | notOneOf choices | notMember choices => "Input should be " ++ choiceText choices
  | notList => "Input should be a valid list"
  | notPair => "Input should be a valid tuple"
  | tooMany given => s!"Tuple should have at most 2 items after validation, not {given}"
  | notMapping => "Input should be a valid dictionary"
  | notRecord name => "Input should be a valid dictionary or instance of " ++ name
  | notMoment => "Input should be a valid datetime"
  | momentNaN => "Input should be a valid datetime, NaN values not permitted"
  | momentTooLate => "Input should be a valid datetime, " ++ DateProblem.tooLate.text
  | momentTooEarly => "Input should be a valid datetime, " ++ DateProblem.tooEarly.text
  | unreadableMoment problem => "Input should be a valid datetime or date, " ++ problem.text
  | unknownTag tag choices =>
    s!"Input tag '{tag}' found using 'type' does not match any of the expected tags: " ++
      ", ".intercalate (choices.map fun choice => s!"'{choice}'")
  | missingTag => "Unable to extract tag using discriminator 'type'"
  | rule message => "Value error, " ++ message

end Reason

inductive PathStep where
  | key (name : String)
  | index (place : Nat)
deriving DecidableEq

def PathStep.text : PathStep → String
  | key name => name
  | index place => toString place

structure Issue where
  reason : Reason
  path : List PathStep
deriving DecidableEq

def Issue.place (issue : Issue) (root : String) : String :=
  let steps := issue.path.map PathStep.text
  let steps := if root = "" then steps else root :: steps
  let place := ".".intercalate steps
  if place = "" then "params" else place

-- The message for callers, who know a missing field as a required one.
def Issue.summary (issue : Issue) : String :=
  match issue.reason with
  | .missing => "required field is missing"
  | reason => reason.message

-- The result of a check: a value, at least one issue, or a number too large to be checked at all.
inductive Checked (α : Type) where
  | ok (value : α)
  | invalid (first : Issue) (rest : List Issue)
  | overflow

namespace Checked

def refuse (reason : Reason) : Checked α := invalid ⟨reason,[]⟩ []

def map (f : α → β) : Checked α → Checked β
  | ok a => ok (f a)
  | invalid first rest => invalid first rest
  | overflow => overflow

-- Both parts are checked, and all issues kept; a number too large stops everything.
def zipWith (f : α → β → γ) : Checked α → Checked β → Checked γ
  | overflow,_ | _,overflow => overflow
  | ok a,ok b => ok (f a b)
  | ok _,invalid first rest | invalid first rest,ok _ => invalid first rest
  | invalid first rest,invalid other others => invalid first (rest ++ other :: others)

-- The issues of both parts; their values are not needed.
def both (a : Checked α) (b : Checked β) : Checked Unit := zipWith (fun _ _ => ()) a b

def andThen (checked : Checked α) (next : α → Checked β) : Checked β :=
  match checked with
  | ok a => next a
  | invalid first rest => invalid first rest
  | overflow => overflow

-- The same result, seen from one step further out.
def under (step : PathStep) : Checked α → Checked α
  | invalid first rest =>
    invalid {first with path := step :: first.path} (rest.map fun issue => {issue with path := step :: issue.path})
  | other => other

instance : Functor Checked := ⟨map,fun a => map fun _ => a⟩
instance : Pure Checked := ⟨ok⟩
instance : Seq Checked := ⟨fun f a => zipWith (fun f a => f a) f (a ())⟩

end Checked
end OrderDesk
