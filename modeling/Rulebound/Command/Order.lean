import Rulebound.Command.Word
import Rulebound.Settings

/-!
# Orders

What a whole command line asks for. Words are taken in their order: a later switch wins over an
earlier one of the same kind, asking for help ends the reading, and words that nothing takes are
complained about only when all others were taken.
-/

namespace Rulebound.Command

structure Order where
  request : Settings.Request := {}
  showsCycles : Bool := false
  views : Bool := false
  replays : Bool := false
  runFolder : Option Path := none
  isVerbose : Bool := false
deriving Repr, Inhabited

namespace Order

def ask (order : Order) (change : Settings.Request → Settings.Request) : Order :=
  { order with request := change order.request }

def turnOn (order : Order) : Switch → Order
  | .showCycles => { order with showsCycles := true }
  | .view => { order with views := true }
  | .replay => { order with replays := true }
  | .verbose => { order with isVerbose := true }
  | _ => order

def give (order : Order) (switch : Switch) (value : String) : Except Misuse Order :=
  match switch with
  | .config => .ok (order.ask fun request => { request with profilePath := some (.ofText value) })
  | .name => .ok (order.ask fun request => { request with agentName := some value })
  | .llm => .ok (order.ask fun request => { request with backend := some value })
  | .modelId => .ok (order.ask fun request => { request with model := some value })
  | .ollamaHost => .ok (order.ask fun request => { request with host := some value })
  | .interval =>
      match Binary64.read? value with
      | some interval =>
          .ok (order.ask fun request => { request with interval := some (.float interval) })
      | none => .error (.valueUnreadable switch "float" value)
  | .ticks =>
      match readInt? value with
      | some turns => .ok (order.ask fun request => { request with turns := some (.int turns) })
      | none => .error (.valueUnreadable switch "int" value)
  | .logDir => .ok (order.ask fun request => { request with logFolder := some (.ofText value) })
  | .runFolder => .ok { order with runFolder := some (.ofText value) }
  | _ => .error (.valueUnused switch value)

/-- The order with a switch whose value is left out: no text or path is asked for, and in the place
of a number there is a list of none. -/
def giveNothing (order : Order) (switch : Switch) : Order :=
  match switch with
  | .config => order.ask fun request => { request with profilePath := none }
  | .name => order.ask fun request => { request with agentName := none }
  | .llm => order.ask fun request => { request with backend := none }
  | .modelId => order.ask fun request => { request with model := none }
  | .ollamaHost => order.ask fun request => { request with host := none }
  | .interval => order.ask fun request => { request with interval := some (.array []) }
  | .ticks => order.ask fun request => { request with turns := some (.array []) }
  | .logDir => order.ask fun request => { request with logFolder := none }
  | .runFolder => { order with runFolder := none }
  | _ => order

/-- The order with a value that stands in the same word as its switch. Two dashes there leave the
value out. -/
def giveAttached (order : Order) (switch : Switch) (value : String) : Except Misuse Order :=
  if value = "--" ∧ switch.takesValue then .ok (order.giveNothing switch)
  else order.give switch value

end Order

inductive Reading where
  | order (order : Order)
  | help
  | misuse (misuse : Misuse)
deriving Repr

namespace Reading

/-- Words taken one after another, given the order so far and the words that nothing took. -/
def ofWords (order : Order) (left : List String) : List Word → Reading
  | [] => if left.isEmpty then .order order else .misuse (.unrecognized left)
  | .plain text :: rest => ofWords order (left ++ [text]) rest
  | .unknown text :: rest => ofWords order (left ++ [text]) rest
  | .divider :: rest => ofWords order (left ++ ["--"]) rest
  | .switch switch (some value) :: rest =>
      match order.giveAttached switch value with
      | .ok order => ofWords order left rest
      | .error wrong => .misuse wrong
  | .switch .help none :: _ => .help
  | .switch switch none :: .plain value :: rest =>
      if switch.takesValue then
        match order.give switch value with
        | .ok order => ofWords order left rest
        | .error wrong => .misuse wrong
      else ofWords (order.turnOn switch) (left ++ [value]) rest
  | .switch switch none :: rest =>
      if switch.takesValue then .misuse (.valueMissing switch)
      else ofWords (order.turnOn switch) left rest

def ofTexts (texts : List String) : Reading :=
  match Word.ofTexts texts with
  | .ok words => ofWords {} [] words
  | .error wrong => .misuse wrong

end Reading

end Rulebound.Command
