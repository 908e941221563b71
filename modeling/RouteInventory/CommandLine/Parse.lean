import RouteInventory.CommandLine.Arguments
import RouteInventory.CommandLine.Usage

/-!
Reading a command line. Words are read from left to right. An option takes the next word as its
value or one attached to it (`--name=value`, `-nvalue`, `-n=value`); short flags can share a dash.
The value of an option, like the directory, is only looked at when the next flag, option or
directory is read or the line ends, so an unknown word is reported before a bad value in front of
it. After `--` every word is a directory.
-/

namespace RouteInventory.CommandLine

/-- Why reading ends before the arguments are complete. -/
inductive Stop where
  /-- Help is asked for, in its long form or its short one. -/
  | help (long : Bool)
  | version
  | usage (cause : UsageError)
  deriving DecidableEq, Repr

/-- What has been set so far. -/
structure Draft where
  directory : Option String := none
  outputDir : Option String := none
  includeTests : Bool := false
  extensions : List String := []
  exclude : List String := []
  gitignore : Bool := false
  queryTag : Option String := none
  format : Option SummaryFormat := none
  logLevel : Option String := none
  verbose : Bool := false
  quiet : Bool := false

namespace Draft

/-- Sets what can be set once. -/
def once {α : Type} (slot : Slot) (old : Option α) (new : Except UsageError α) :
    Except Stop (Option α) :=
  if old.isSome then .error (.usage (.repeated slot.label))
  else match new with
    | .ok v => .ok (some v)
    | .error e => .error (.usage e)

/-- A value that is a path. -/
def path (slot : Slot) (value : String) : Except UsageError String :=
  if value = "" then .error (.noValue slot) else .ok value

/-- A value that names a format. -/
def formatOf (value : String) : Except UsageError SummaryFormat :=
  match value with
  | "json" => .ok .json
  | "human" => .ok .human
  | "" => .error (.noValue .format)
  | _ => .error (.badValue .format value)

/-- Sets a value. -/
def set (d : Draft) (slot : Slot) (value : Option String) : Except Stop Draft :=
  match value with
  | none => .error (.usage (.noValue slot))
  | some value =>
    match slot with
    | .directory =>
      (once slot d.directory (path slot value)).map fun v => { d with directory := v }
    | .outputDir =>
      (once slot d.outputDir (path slot value)).map fun v => { d with outputDir := v }
    | .ext => .ok { d with extensions := d.extensions ++ [value] }
    | .exclude => .ok { d with exclude := d.exclude ++ [value] }
    | .queryTag => (once slot d.queryTag (.ok value)).map fun v => { d with queryTag := v }
    | .format => (once slot d.format (formatOf value)).map fun v => { d with format := v }
    | .logLevel => (once slot d.logLevel (.ok value)).map fun v => { d with logLevel := v }

/-- A flag can be raised once. -/
def raise (f : Flag) (old : Bool) : Except Stop Bool :=
  if old then .error (.usage (.repeated f.label)) else .ok true

/-- Raises a flag. -/
def setFlag (d : Draft) (long : Bool) (f : Flag) : Except Stop Draft :=
  match f with
  | .includeTests => (raise f d.includeTests).map fun v => { d with includeTests := v }
  | .gitignore => (raise f d.gitignore).map fun v => { d with gitignore := v }
  | .verbose => (raise f d.verbose).map fun v => { d with verbose := v }
  | .quiet => (raise f d.quiet).map fun v => { d with quiet := v }
  | .help => .error (.help long)
  | .version => .error .version

/-- The arguments, if they go together and none is missing. -/
def finish (d : Draft) : Except Stop Arguments :=
  if d.verbose && d.quiet then .error (.usage .verboseAndQuiet)
  else
    match d.directory with
    | none => .error (.usage .missingArgument)
    | some directory => .ok
      { directory, outputDir := d.outputDir, includeTests := d.includeTests
        extensions := d.extensions, exclude := d.exclude, gitignore := d.gitignore
        queryTag := d.queryTag, format := d.format.getD .human, logLevel := d.logLevel
        verbose := d.verbose, quiet := d.quiet }

end Draft

/-- How far reading has come. -/
structure Progress where
  draft : Draft := {}
  /-- What is not looked at yet: where a value goes, and the value if there is one already. -/
  pending : Option (Slot × Option String) := none
  /-- A directory has been read. -/
  hasDirectory : Bool := false
  /-- `--` has been read. -/
  escaped : Bool := false

namespace Progress

/-- Looks at what is pending. -/
def settle (p : Progress) : Except Stop Progress :=
  match p.pending with
  | none => .ok p
  | some (slot, value) =>
    (p.draft.set slot value).map fun d => { p with draft := d, pending := none }

/-- Raises a flag. -/
def flag (p : Progress) (long : Bool) (f : Flag) : Except Stop Progress := do
  let p ← p.settle
  return { p with draft := ← p.draft.setFlag long f }

/-- Reads an option: an attached value is looked at right away, any other is waited for. -/
def option (p : Progress) (slot : Slot) (attached : Option String) : Except Stop Progress := do
  let p ← p.settle
  match attached with
  | some value => return { p with draft := ← p.draft.set slot (some value) }
  | none => return { p with pending := some (slot, none) }

/-- Reads a directory. -/
def positional (p : Progress) (word : String) : Except Stop Progress :=
  if p.hasDirectory then .error (.usage (.extraArgument word))
  else p.settle.map fun p =>
    { p with pending := some (.directory, some word), hasDirectory := true }

/-- Reads a word after two dashes. -/
def long (p : Progress) (name : List Char) (value : Option String) : Except Stop Progress :=
  match Name.ofLong? (.ofList name), value with
  | none, _ => .error (.usage (.unknownOption ("--" ++ .ofList name)))
  | some (.option slot), _ => p.option slot value
  | some (.flag f), some value => .error (.usage (.flagValue f value))
  | some (.flag f), none => p.flag true f

/-- Reads the letters after one dash; the first option among them takes the rest. -/
def short (p : Progress) : List Char → Except Stop Progress
  | [] => .ok p
  | c :: rest =>
    match Name.ofShort? c with
    | none => .error (.usage (.unknownOption (.ofList ['-', c])))
    | some (.flag f) =>
      match p.flag false f with
      | .error e => .error e
      | .ok next => next.short rest
    | some (.option slot) =>
      match rest with
      | [] => p.option slot none
      | '=' :: value => p.option slot (some (.ofList value))
      | value => p.option slot (some (.ofList value))

/-- Reads a word that is neither an option nor a flag: the value that is waited for, or else the
    directory. -/
def plain (p : Progress) (word : String) : Except Stop Progress :=
  match p.pending with
  | some (slot, none) => .ok { p with pending := some (slot, some word) }
  | _ => p.positional word

/-- Reads a word. -/
def word (p : Progress) (w : String) : Except Stop Progress :=
  if p.escaped then p.positional w
  else
    match w.toList with
    | ['-', '-'] => .ok { p with escaped := true }
    | '-' :: '-' :: rest =>
      let name := rest.takeWhile (· ≠ '=')
      let value :=
        match rest.dropWhile (· ≠ '=') with
        | [] => none
        | _ :: value => some (String.ofList value)
      p.long name value
    | '-' :: c :: rest => p.short (c :: rest)
    | _ => p.plain w

end Progress

/-- Reads the words after the command's name. -/
def parse (words : List String) : Except Stop Arguments := do
  let p ← words.foldlM Progress.word {}
  (← p.settle).draft.finish

end RouteInventory.CommandLine
