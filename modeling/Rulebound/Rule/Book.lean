import Rulebound.Action
import Rulebound.Log
import Rulebound.Rule
import Rulebound.Text.Case

/-!
# The rule book

The rules in force, in the order in which they were given. An action is denied by the first
prohibition whose scope covers it; no other kind of rule denies anything.
-/

namespace Rulebound

/-- A scope as it counts for an action: an empty name stands for all, like an absent one. -/
def nonEmpty? (name : Option String) : Option String :=
  name.filter (· != "")

/-- Whether a scope covers an action. A target is looked for in the words of the action; where the
target is players, every attack on something not named a zombie is an attack on a player. -/
def Scope.covers (scope : Scope) (action : Action) : Bool :=
  let sameVerb := scope.action == some action.verb
  if (nonEmpty? scope.action).isSome && !sameVerb then false
  else
    match nonEmpty? scope.target with
    | none => sameVerb
    | some target =>
        let words := Text.lower (Text.join " " action.words)
        if action.words.isEmpty then false
        else if target = "players" then
          action.verb == "attack" &&
            (Text.contains words "player" || !Text.contains words "zombie")
        else Text.contains words target

def Rule.covers (rule : Rule) (action : Action) : Bool :=
  rule.scope.covers action

/-- An answer to the question whether an action may be done. -/
inductive Permission where
  | permitted
  | denied (reason : String)
deriving DecidableEq, Repr

structure RuleBook where
  rules : List Rule
deriving DecidableEq, Repr

namespace RuleBook

def ofTexts (texts : List String) : RuleBook :=
  ⟨texts.map Rule.compile⟩

def texts (book : RuleBook) : List String :=
  book.rules.map Rule.text

def judgeBy (action : Action) : List Rule → Permission
  | [] => .permitted
  | .prohibition scope text :: rest =>
      if scope.covers action then .denied text else judgeBy action rest
  | _ :: rest => judgeBy action rest

def judge (book : RuleBook) (action : Action) : Permission :=
  judgeBy action book.rules

/-- The restrictions that some rules impose on an action before one of them denies it. -/
def touchedBy (action : Action) : List Rule → List String
  | [] => []
  | .prohibition scope _ :: rest =>
      if scope.covers action then [] else touchedBy action rest
  | .restriction scope text :: rest =>
      if scope.covers action then text :: touchedBy action rest else touchedBy action rest
  | _ :: rest => touchedBy action rest

def judgeLogs (book : RuleBook) (action : Action) : List Log.Line :=
  (touchedBy action book.rules).map fun text =>
    .debug ("Action " ++ action.verb ++ " touches restriction " ++ Text.quoted text)

def add (book : RuleBook) (text : String) : RuleBook :=
  ⟨book.rules ++ [Rule.compile text]⟩

def addLogs (text : String) : List Log.Line :=
  [.info ("Added " ++ (Rule.compile text).kind.name ++ " rule: " ++ text)]

def remove (book : RuleBook) (text : String) : RuleBook :=
  ⟨book.rules.filter (·.text != text)⟩

def countText (book : RuleBook) (text : String) : Nat :=
  book.rules.countP (·.text == text)

def removeLogs (book : RuleBook) (text : String) : List Log.Line :=
  if book.countText text = 0 then [] else [.info ("Removed rule: " ++ text)]

end RuleBook

inductive RuleEdit where
  | add (text : String)
  | remove (text : String)
deriving DecidableEq, Repr

namespace RuleEdit

def apply (edit : RuleEdit) (book : RuleBook) : RuleBook :=
  match edit with
  | add text => book.add text
  | remove text => book.remove text

def logs (edit : RuleEdit) (book : RuleBook) : List Log.Line :=
  match edit with
  | add text => RuleBook.addLogs text
  | remove text => book.removeLogs text

end RuleEdit

/-!
## Verdicts

The written form of an answer to the question whether an action may be done. A denial always has a
reason.
-/

structure Verdict where
  permitted : Bool
  reason : Option String
deriving DecidableEq, Repr

namespace Verdict

def ofPermission : Permission → Verdict
  | .permitted => ⟨true, none⟩
  | .denied reason => ⟨false, some reason⟩

def toJson (verdict : Verdict) : Json :=
  .object [("permitted", .bool verdict.permitted), ("reason", .ofText? verdict.reason)]

/-- Whether a verdict is a permission or gives a reason. -/
def isReasoned (verdict : Verdict) : Bool :=
  verdict.permitted || (verdict.reason.filter (· != "")).isSome

def decode : Json → Checked Verdict :=
  Decode.object fun fields =>
    (Decode.only ["permitted", "reason"] fields
      (Verdict.mk <$> Decode.required fields "permitted" Decode.truth
        <*> Decode.withDefault fields "reason" (Decode.optional Decode.text) none)).andThen
      fun verdict => if verdict.isReasoned then .good verdict else .fail .valueRefused

end Verdict

end Rulebound
