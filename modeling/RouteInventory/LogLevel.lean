import RouteInventory.Text.Lower

/-!
Levels of log events, and the settings of the log itself.
-/

namespace RouteInventory

/-- A level, the most talkative first. -/
inductive LogLevel where
  | trace | debug | info | warn | error
  deriving DecidableEq, Repr

namespace LogLevel

/-- The level in capitals, as events carry it. -/
def label : LogLevel → String
  | trace => "TRACE"
  | debug => "DEBUG"
  | info => "INFO"
  | warn => "WARN"
  | error => "ERROR"

/-- The colour of a level, as terminals number it. -/
def color : LogLevel → Nat
  | trace => 35
  | debug => 34
  | info => 32
  | warn => 33
  | error => 31

/-- How much a level lets through. -/
def rank : LogLevel → Nat
  | error => 1
  | warn => 2
  | info => 3
  | debug => 4
  | trace => 5

/-- The level that a name means, in whatever case. -/
def ofName? (name : String) : Option LogLevel :=
  match Text.lower name with
  | "trace" => some trace
  | "debug" => some debug
  | "info" => some info
  | "warn" => some warn
  | "error" => some error
  | _ => none

/-- The level that a name means; a name that means none counts as `info`. -/
def ofName (name : String) : LogLevel := (ofName? name).getD info

end LogLevel

/-- The variables of an environment. -/
abbrev Env := List (String × String)

/-- How the log is written. -/
structure LogFormat where
  level : LogLevel := .info
  /-- One JSON object to a line, instead of text. -/
  json : Bool := false
  /-- Text is coloured. -/
  colored : Bool := true
  withTarget : Bool := true
  withLocation : Bool := false
  withThreads : Bool := false
  deriving DecidableEq, Repr

/-- `true` or `false`, spelled exactly so. -/
def readBool? (s : String) : Option Bool :=
  if s = "true" then some true else if s = "false" then some false else none

/-- The format for a level, in JSON or without colours if the environment asks for it. -/
def LogFormat.ofEnv (env : Env) (level : LogLevel) : LogFormat where
  level := level
  json := ((env.lookup "ROUTESCAN_LOG_JSON").bind readBool?).getD false
  colored := (env.lookup "NO_COLOR").all (· = "")

end RouteInventory
