import SyscallProfiler.Settings

/-!
# Options of the command line

Arguments are read from the left. An option takes its value from the same argument, after an equals
sign or, for one-letter options, directly; or it takes the next argument as it stands, unless that
looks like an option. A value is judged when the next known option comes or the arguments end, and
until then an unknown argument has precedence over whatever is wrong with it.
-/

namespace SyscallProfiler

/-- How a run reports its results. -/
inductive ReportFormat where
  | text
  | json
deriving DecidableEq, Repr, Inhabited

namespace ReportFormat

def byName : List (String × ReportFormat) := [("text", .text), ("json", .json)]

end ReportFormat

/-- What the command line says. -/
structure Options where
  workload : Option String
  benchmarks : Option String
  outputDir : Option String
  collector : Option String
  spawnTimeout : Option Nat
  readiness : Option Readiness
  settleDelayMs : Option Nat
  /-- The file with the settings. -/
  settingsFile : Option String
  format : ReportFormat
  list : Bool
  debug : Bool
  /-- The invocation script to run instead of a profile. -/
  invoke : Option String
deriving DecidableEq, Repr

/-- Why a command line is refused, or what it asks for instead of a run. -/
inductive UsageError where
  | unknownArgument
  /-- A value is missing, or is not one of those that may be given. -/
  | invalidValue
  /-- A value is no number. -/
  | valueValidation
  /-- An option is given twice. -/
  | argumentConflict
  /-- A value is given where none is taken. -/
  | tooManyValues
  | displayHelp
  | displayVersion
deriving DecidableEq, Repr

/-- The names of the kinds of refusal. -/
def UsageError.name : UsageError → String
  | .unknownArgument => "UnknownArgument"
  | .invalidValue => "InvalidValue"
  | .valueValidation => "ValueValidation"
  | .argumentConflict => "ArgumentConflict"
  | .tooManyValues => "TooManyValues"
  | .displayHelp => "DisplayHelp"
  | .displayVersion => "DisplayVersion"

namespace Options

/-- The options of an empty command line. -/
def none_ : Options where
  workload := none
  benchmarks := none
  outputDir := none
  collector := none
  spawnTimeout := none
  readiness := none
  settleDelayMs := none
  settingsFile := none
  format := .text
  list := false
  debug := false
  invoke := none

instance : Inhabited Options := ⟨none_⟩

/-- An option that takes a value. -/
inductive ValueKey where
  | workload
  | benchmarks
  | outputDir
  | collector
  | spawnTimeout
  | readiness
  | settleDelayMs
  | settingsFile
  | format
  | invoke
deriving DecidableEq, Repr

/-- An option that takes no value. -/
inductive FlagKey where
  | list
  | debug
  | help
  | version
deriving DecidableEq, Repr

/-- An option. -/
inductive Key where
  | value (k : ValueKey)
  | flag (k : FlagKey)
deriving DecidableEq, Repr

def longNames : List (String × Key) :=
  [("workload", .value .workload), ("benchmarks", .value .benchmarks),
    ("output-dir", .value .outputDir), ("collector", .value .collector),
    ("spawn-timeout", .value .spawnTimeout), ("readiness", .value .readiness),
    ("settle-delay-ms", .value .settleDelayMs), ("config", .value .settingsFile),
    ("format", .value .format), ("invoke", .value .invoke), ("list", .flag .list),
    ("debug", .flag .debug), ("help", .flag .help), ("version", .flag .version)]

def short? (c : Char) : Option Key :=
  if c = 'w' then some (.value .workload)
  else if c = 'b' then some (.value .benchmarks)
  else if c = 'o' then some (.value .outputDir)
  else if c = 'h' then some (.flag .help)
  else if c = 'V' then some (.flag .version)
  else none

/-- A path; there is no empty one. -/
def pathValue (text : String) : Except UsageError String :=
  if text = "" then .error .invalidValue else .ok text

/-- A number of 64 bits in decimal digits, after an optional plus sign. -/
def countValue (text : String) : Except UsageError Nat :=
  let digits :=
    match text.toList with
    | '+' :: rest => rest
    | other => other
  if digits.isEmpty || !digits.all Json.isDigit then .error .valueValidation
  else
    let n := Json.ofDigits digits
    if n ≤ Json.maxUnsigned then .ok n else .error .valueValidation

/-- One of the named values. -/
def namedValue {α : Type} (names : List (String × α)) (text : String) : Except UsageError α :=
  match Json.lookup text names with
  | some a => .ok a
  | none => .error .invalidValue

def put (o : Options) (key : ValueKey) (text : String) : Except UsageError Options :=
  match key with
  | .workload => .ok { o with workload := some text }
  | .benchmarks => (pathValue text).map fun p => { o with benchmarks := some p }
  | .outputDir => (pathValue text).map fun p => { o with outputDir := some p }
  | .collector => .ok { o with collector := some text }
  | .spawnTimeout => (countValue text).map fun n => { o with spawnTimeout := some n }
  | .readiness =>
    (namedValue Readiness.byName text).map fun r => { o with readiness := some r }
  | .settleDelayMs => (countValue text).map fun n => { o with settleDelayMs := some n }
  | .settingsFile => (pathValue text).map fun p => { o with settingsFile := some p }
  | .format => (namedValue ReportFormat.byName text).map fun f => { o with format := f }
  | .invoke => (pathValue text).map fun p => { o with invoke := some p }

/-- How far a command line has been read. -/
structure Progress where
  options : Options
  /-- The options that have been given. -/
  given : List Key
  /-- The last option with its value, while these have not been judged. -/
  pending : Option (ValueKey × Option String)

namespace Progress

/-- Puts in a value that was given for an option. -/
def accept (p : Progress) (key : ValueKey) (text : String) : Except UsageError Progress :=
  if p.given.contains (.value key) then .error .argumentConflict
  else
    match p.options.put key text with
    | .error e => .error e
    | .ok options => .ok { p with options, given := .value key :: p.given }

/-- Judges what is pending. -/
def settle (p : Progress) : Except UsageError Progress :=
  match p.pending with
  | none => .ok p
  | some (_, none) => .error .invalidValue
  | some (key, some text) => { p with pending := none }.accept key text

def takeFlag (p : Progress) (key : FlagKey) : Except UsageError Progress :=
  match p.settle with
  | .error e => .error e
  | .ok p =>
    match key with
    | .help => .error .displayHelp
    | .version => .error .displayVersion
    | .list =>
      if p.given.contains (.flag .list) then .error .argumentConflict
      else
        .ok { p with options := { p.options with list := true }, given := .flag .list :: p.given }
    | .debug =>
      if p.given.contains (.flag .debug) then .error .argumentConflict
      else
        .ok { p with options := { p.options with debug := true }, given := .flag .debug :: p.given }

/-- Takes an option and the value that came with it, if one did. -/
def takeValue (p : Progress) (key : ValueKey) (attached : Option String) :
    Except UsageError Progress :=
  match p.settle with
  | .error e => .error e
  | .ok p =>
    match attached with
    | some text => p.accept key text
    | none => .ok { p with pending := some (key, none) }

def takeLetters (p : Progress) : List Char → Except UsageError Progress
  | [] => .ok p
  | c :: rest =>
    match short? c with
    | none => .error .unknownArgument
    | some (.flag key) =>
      match p.takeFlag key with
      | .error e => .error e
      | .ok p => p.takeLetters rest
    | some (.value key) =>
      match rest with
      | [] => p.takeValue key none
      | '=' :: text => p.takeValue key (some (String.ofList text))
      | text => p.takeValue key (some (String.ofList text))

/-- A text split at its first equals sign. -/
def splitEquals : List Char → List Char × Option (List Char)
  | [] => ([], none)
  | c :: rest =>
    if c = '=' then ([], some rest)
    else
      let (name, value) := splitEquals rest
      (c :: name, value)

def takeLong (p : Progress) (text : List Char) : Except UsageError Progress :=
  let (name, value) := splitEquals text
  match Json.lookup (String.ofList name) longNames with
  | none => .error .unknownArgument
  | some (.flag key) => if value.isSome then .error .tooManyValues else p.takeFlag key
  | some (.value key) => p.takeValue key (value.map String.ofList)

/-- Takes an argument that does not look like an option: it is the value that is missing. -/
def takePlain (p : Progress) (text : String) : Except UsageError Progress :=
  match p.pending with
  | some (key, none) => .ok { p with pending := some (key, some text) }
  | _ => .error .unknownArgument

/-- Takes an argument; `last` says whether it is the last one. Nothing may come after two hyphens
alone. -/
def take (p : Progress) (last : Bool) (arg : String) : Except UsageError Progress :=
  match arg.toList with
  | '-' :: '-' :: [] => if last then .ok p else .error .unknownArgument
  | '-' :: '-' :: text => p.takeLong text
  | '-' :: c :: text => p.takeLetters (c :: text)
  | _ => p.takePlain arg

def takeAll (p : Progress) : List String → Except UsageError Progress
  | [] => p.settle
  | arg :: rest =>
    match p.take rest.isEmpty arg with
    | .error e => .error e
    | .ok p => p.takeAll rest

end Progress

/-- Reads a command line. -/
def parse (args : List String) : Except UsageError Options :=
  (Progress.takeAll ⟨none_, [], none⟩ args).map (·.options)

/-- The settings with what the command line says put over them. -/
def applyTo (o : Options) (s : Settings) : Settings :=
  { s with
    benchmarksRoot := o.benchmarks.getD s.benchmarksRoot
    outputDir := o.outputDir.getD s.outputDir
    collector := o.collector.getD s.collector
    spawnTimeoutSecs := o.spawnTimeout.getD s.spawnTimeoutSecs
    readiness := o.readiness.getD s.readiness
    settleDelayMs := o.settleDelayMs.getD s.settleDelayMs
    workload := o.workload.getD s.workload }

end Options

end SyscallProfiler
