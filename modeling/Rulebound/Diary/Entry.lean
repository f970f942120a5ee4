import Rulebound.Cycle.Record
import Rulebound.Instant
import Rulebound.Json.Printer
import Rulebound.Profile
import Rulebound.Text.Case

/-!
# Diary entries

What a diary is made of: a header, one entry for each turn, faults and events. Every entry is one
line of ASCII.
-/

namespace Rulebound.Diary

inductive Entry where
  | header (time : Instant) (profile : Profile) (metadata : Json)
  | cycle (record : Cycle.Record)
  | error (time : Instant) (message : String) (fault : Fault)
  | event (time : Instant) (kind : String) (details : Json)
deriving Repr, Inhabited

namespace Entry

def schemaVersion : Int := 1

def ofType (type : String) (fields : Json.Fields) : Json :=
  .object (("type", .string type) :: ("schema_version", .int schemaVersion) :: fields)

def toJson : Entry → Json
  | header time profile metadata =>
      ofType "header" [
        ("started_at", .string time.text),
        ("config", profile.toJson),
        ("metadata", if metadata.isTruthy then metadata else .object [])]
  | cycle record => ofType "cycle" [("payload", record.toJson)]
  | error time message fault =>
      ofType "error" [
        ("at", .string time.text),
        ("message", .string message),
        ("error", .string fault.text),
        ("traceback", .string fault.trace)]
  | event time kind details =>
      ofType "event" [
        ("at", .string time.text),
        ("kind", .string (Text.upper kind)),
        ("details", details)]

def line (entry : Entry) : String :=
  Json.line entry.toJson

end Entry

/-- The text of a diary that has been written from the start: a line for each entry. -/
def textOf (entries : List Entry) : List Char :=
  entries.flatMap fun entry => Json.print entry.toJson ++ ['\n']

end Rulebound.Diary
