import RouteInventory.Json
import RouteInventory.LogLevel

/-!
Log events: what a run says about what it does, beside its answer.
-/

namespace RouteInventory

/-- An event. -/
structure LogEvent where
  level : LogLevel
  /-- The part of the program that it comes from. -/
  target : String
  message : String
  fields : List (String × Json) := []

namespace LogEvent

/-- The names of an event's fields, of which the message is the first. -/
def fieldNames (e : LogEvent) : List String := "message" :: e.fields.map (·.1)

/-- The event as one JSON object. -/
def toJson (e : LogEvent) : Json :=
  .object [("level", .text e.level.label),
    ("fields", .object (("message", .text e.message) :: e.fields)), ("target", .text e.target)]

/-- A text that a terminal shows in a certain way. -/
def styled (colored : Bool) (style : Nat) (s : String) : String :=
  if colored then s!"\x1b[{style}m" ++ s ++ "\x1b[0m" else s

/-- A level's name, as wide as the widest. -/
def levelColumn (level : LogLevel) : String :=
  .ofList (List.replicate (5 - level.label.length) ' ') ++ level.label

/-- The event as text: one line, as long as its values are. Dimmed and slanted parts have the styles
    2 and 3. -/
def toText (colored : Bool) (e : LogEvent) : String :=
  let value : Json → String
    | .text s => s
    | v => v.compact
  " ".intercalate
    (styled colored e.level.color (levelColumn e.level) ::
      (styled colored 2 e.target ++ styled colored 2 ":") :: e.message ::
      e.fields.map fun (name, v) => styled colored 3 name ++ styled colored 2 "=" ++ value v)

/-- The event as it is written. -/
def write (format : LogFormat) (e : LogEvent) : String :=
  (if format.json then e.toJson.compact else e.toText format.colored) ++ "\n"

end LogEvent
end RouteInventory
