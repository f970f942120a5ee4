import Rulebound.Fault
import Rulebound.Number.Digits
import Rulebound.Text.Search

/-!
# Checked values

The result of checking data against a schema: a value, or every issue that was found. Checks of
several parts are combined so that no issue of one part hides those of another.
-/

namespace Rulebound

/-- What is wrong with a part of the data. -/
inductive Cause where
  | missing
  | extraForbidden
  | notString
  | notUnicode
  | notModel
  | notModelOrAttributes
  | notList
  | notTuple
  | notLiteral
  | valueRefused
  | tagMissing
  | tagUnknown
  | belowMinimum
  | notPath
  | notInteger
  | unreadableInteger
  | integerTooLong
  | fractionalInteger
  | notFinite
  | notNumber
  | unreadableNumber
  | notBoolean
  | unreadableBoolean
deriving DecidableEq, Repr

def Cause.name : Cause → String
  | missing => "missing"
  | extraForbidden => "extra_forbidden"
  | notString => "string_type"
  | notUnicode => "string_unicode"
  | notModel => "model_type"
  | notModelOrAttributes => "model_attributes_type"
  | notList => "list_type"
  | notTuple => "tuple_type"
  | notLiteral => "literal_error"
  | valueRefused => "value_error"
  | tagMissing => "union_tag_not_found"
  | tagUnknown => "union_tag_invalid"
  | belowMinimum => "greater_than_equal"
  | notPath => "path_type"
  | notInteger => "int_type"
  | unreadableInteger => "int_parsing"
  | integerTooLong => "int_parsing_size"
  | fractionalInteger => "int_from_float"
  | notFinite => "finite_number"
  | notNumber => "float_type"
  | unreadableNumber => "float_parsing"
  | notBoolean => "bool_type"
  | unreadableBoolean => "bool_parsing"

inductive Step where
  | field (name : String)
  | index (place : Nat)
deriving DecidableEq, Repr

def Step.text : Step → String
  | field name => name
  | index place => intText place

structure Issue where
  path : List Step
  cause : Cause
deriving DecidableEq, Repr

namespace Issue

def text (issue : Issue) : String :=
  Text.join "." (issue.path.map Step.text) ++ ": " ++ issue.cause.name

def textAll (issues : List Issue) : String :=
  Text.join "; " (issues.map text)

end Issue

/-- A value that passed all checks, or the issues that were found. -/
inductive Checked (α : Type) where
  | good (value : α)
  | bad (issues : List Issue)
deriving DecidableEq, Repr

namespace Checked

variable {α β : Type}

def fail (cause : Cause) : Checked α :=
  bad [⟨[], cause⟩]

def map (f : α → β) : Checked α → Checked β
  | good value => good (f value)
  | bad issues => bad issues

def apply : Checked (α → β) → Checked α → Checked β
  | good f, good value => good (f value)
  | good _, bad issues => bad issues
  | bad issues, good _ => bad issues
  | bad issues, bad more => bad (issues ++ more)

instance : Functor Checked where
  map := map

instance : Seq Checked where
  seq f value := apply f (value ())

def andThen (checked : Checked α) (next : α → Checked β) : Checked β :=
  match checked with
  | good value => next value
  | bad issues => bad issues

def under (step : Step) : Checked α → Checked α
  | good value => good value
  | bad issues => bad (issues.map fun issue => { issue with path := step :: issue.path })

/-- The value, unless there are further issues, which come after its own. -/
def withIssues (checked : Checked α) (more : List Issue) : Checked α :=
  match checked, more with
  | good value, [] => good value
  | good _, more => bad more
  | bad issues, more => bad (issues ++ more)

def all : List (Checked α) → Checked (List α)
  | [] => good []
  | checked :: rest => (checked.map List.cons).apply (all rest)

def toExcept : Checked α → Except Fault α
  | good value => .ok value
  | bad issues => .error ⟨.validation, some (Issue.textAll issues), ""⟩

end Checked

end Rulebound
