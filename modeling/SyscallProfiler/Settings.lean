import SyscallProfiler.Duration
import SyscallProfiler.Payload
import SyscallProfiler.Text.Blank
import SyscallProfiler.Toml.Choice

/-!
# Settings

What a run is told about its collector, its workloads and its limits. Settings come from a TOML
file, every key of which may be missing, and are judged when they have been read and again when
the command line has had its say. `Settings.validate` names the first rule that is broken, in a
fixed order.
-/

namespace SyscallProfiler

/-- How a session decides that the collector is observing its target. -/
inductive Readiness where
  /-- It asks the target for its tracer until there is one. -/
  | probe
  /-- It waits for a fixed time. -/
  | settle
deriving DecidableEq, Repr, Inhabited

namespace Readiness

def name : Readiness → String
  | .probe => "probe"
  | .settle => "settle"

def byName : List (String × Readiness) := [("probe", .probe), ("settle", .settle)]

end Readiness

/-- What a run is told. -/
structure Settings where
  /-- The collector program, which is looked up among the system's programs. -/
  collector : String
  /-- The command that reads invocation scripts; empty for this program itself. -/
  interpreter : List String
  /-- The directory that holds the workloads. -/
  benchmarksRoot : String
  /-- The directory for artifacts. -/
  outputDir : String
  /-- The directory for invocation scripts, if not the system's own for temporary files. -/
  scriptDir : Option String
  /-- The workload that is profiled if the command line names none. -/
  workload : String
  readiness : Readiness
  settleDelayMs : Nat
  attachDeadlineMs : Nat
  stopTimeoutMs : Nat
  spawnTimeoutSecs : Nat
  /-- Inputs that replace those of the benchmark suite. -/
  inputs : List (String × Payload)
deriving DecidableEq

/-- What is wrong with settings. -/
inductive SettingsError where
  | blankCollector
  | blankInterpreter
  /-- A limit of no time at all. -/
  | zeroLimit (key : String)
  /-- An input binds a key to a list or an object. -/
  | nestedInput (workload key : String) (value : Json)
  /-- A payload by itself binds a key to a list or an object. -/
  | nestedKey (key : String) (value : Json)
  /-- The text of the settings is not TOML. -/
  | notToml
  /-- The settings are TOML, but not of the right shape. -/
  | wrongShape (e : Decode.Error)
deriving DecidableEq, Repr

namespace SettingsError

/-- What all errors of settings begin with. -/
def lead : String := "invalid configuration: "

/-- What the description of every error in the TOML text begins with. -/
def tomlLead : String := "TOML parse error"

/-- The description of a key that is bound to a list or an object. -/
def nestedText (key : String) (value : Json) : String :=
  s!"input key '{key}' must be a scalar, got {value.text}"

def text : SettingsError → String
  | .blankCollector => "collector must not be empty"
  | .blankInterpreter => "interpreter program must not be empty"
  | .zeroLimit key => s!"{key} must be > 0"
  | .nestedInput workload key value => s!"inputs.{workload}: {lead}{nestedText key value}"
  | .nestedKey key value => nestedText key value
  | .notToml => tomlLead
  | .wrongShape e => tomlLead ++ "\n" ++ e.message .toml

def message (e : SettingsError) : String := lead ++ e.text

end SettingsError

/-- Refuses a payload that binds a key to a list or an object. -/
def Payload.validate (p : Payload) : Except SettingsError Unit :=
  match p.firstNested? with
  | some (key, value) => .error (.nestedKey key value)
  | none => .ok ()

namespace Settings

/-- The settings of a run that is told nothing. -/
def standard : Settings where
  collector := "strace"
  interpreter := []
  benchmarksRoot := "benchmarks"
  outputDir := "."
  scriptDir := none
  workload := "110.dynamic-html"
  readiness := .probe
  settleDelayMs := 1000
  attachDeadlineMs := 5000
  stopTimeoutMs := 10000
  spawnTimeoutSecs := 60
  inputs := []

instance : Inhabited Settings := ⟨standard⟩

/-- How long a session waits for the collector to settle. -/
def settleDelay (s : Settings) : Duration := .ofMillis s.settleDelayMs

/-- How long a session waits at most for the collector to attach. -/
def attachDeadline (s : Settings) : Duration := .ofMillis s.attachDeadlineMs

/-- How long a session waits for the collector to end after an interrupt. -/
def stopTimeout (s : Settings) : Duration := .ofMillis s.stopTimeoutMs

/-- How long one run of the collector in a fresh process may take. -/
def spawnTimeout (s : Settings) : Duration := .ofSecs s.spawnTimeoutSecs

/-- Whether a text is empty or holds blanks only. -/
def isBlank (text : String) : Bool := Text.allBlank text.toList

/-- The limits that must not be zero, with their keys, in the order in which they are looked at. -/
def limits (s : Settings) : List (String × Nat) :=
  [("attach_deadline_ms", s.attachDeadlineMs), ("stop_timeout_ms", s.stopTimeoutMs),
    ("spawn_timeout_secs", s.spawnTimeoutSecs)]

/-- The first key of an input that is bound to a list or an object. -/
def firstNestedInput? : List (String × Payload) → Option SettingsError
  | [] => none
  | (workload, payload) :: rest =>
    match payload.firstNested? with
    | some (key, value) => some (.nestedInput workload key value)
    | none => firstNestedInput? rest

/-- The first rule that settings break. -/
def firstError? (s : Settings) : Option SettingsError :=
  if isBlank s.collector then some .blankCollector
  else if (s.interpreter.head?.map isBlank).getD false then some .blankInterpreter
  else
    match s.limits.find? fun (_, limit) => limit == 0 with
    | some (key, _) => some (.zeroLimit key)
    | none => firstNestedInput? s.inputs

/-- Refuses settings that break a rule. -/
def validate (s : Settings) : Except SettingsError Unit :=
  match s.firstError? with
  | some e => .error e
  | none => .ok ()

/-- Decodes the table of inputs. The payloads of a TOML file are put into the form that JSON would
give them. -/
def decodeInputs (dialect : Dialect) (v : Json) : Decode.Result (List (String × Payload)) :=
  Decode.table
    (fun v =>
      match dialect with
      | .json => Payload.decode v
      | .toml => (Payload.decode v).map fun p => .ofPairs (Json.normalFields p.fields))
    v

/-- How settings are written. Every key may be missing, and there are no other keys. `readiness`
decodes the readiness, whose form is not the same in both dialects. -/
def record (dialect : Dialect) (readiness : Json → Decode.Result Readiness) :
    Decode.Record Settings where
  name := "ProfilerConfig"
  closed := true
  fields :=
    [⟨"collector", fun s v => (Decode.string v).map fun x => { s with collector := x }, true⟩,
      ⟨"interpreter",
        fun s v => (Decode.list Decode.string v).map fun x => { s with interpreter := x }, true⟩,
      ⟨"benchmarks_root",
        fun s v => (Decode.path v).map fun x => { s with benchmarksRoot := x }, true⟩,
      ⟨"output_dir", fun s v => (Decode.path v).map fun x => { s with outputDir := x }, true⟩,
      ⟨"script_dir",
        fun s v => (Decode.option Decode.path v).map fun x => { s with scriptDir := x }, true⟩,
      ⟨"workload", fun s v => (Decode.string v).map fun x => { s with workload := x }, true⟩,
      ⟨"readiness",
        fun s v => (readiness v).map fun x => { s with readiness := x }, true⟩,
      ⟨"settle_delay_ms",
        fun s v => (Decode.nat64 v).map fun x => { s with settleDelayMs := x }, true⟩,
      ⟨"attach_deadline_ms",
        fun s v => (Decode.nat64 v).map fun x => { s with attachDeadlineMs := x }, true⟩,
      ⟨"stop_timeout_ms",
        fun s v => (Decode.nat64 v).map fun x => { s with stopTimeoutMs := x }, true⟩,
      ⟨"spawn_timeout_secs",
        fun s v => (Decode.nat64 v).map fun x => { s with spawnTimeoutSecs := x }, true⟩,
      ⟨"inputs", fun s v => (decodeInputs dialect v).map fun x => { s with inputs := x }, true⟩]

/-- Decodes settings from a JSON value; what is not given is as in `standard`. -/
def decode (v : Json) : Decode.Result Settings :=
  (record .json (Decode.choice Readiness.byName)).fill standard v

/-- Decodes settings from a TOML document; what is not given is as in `standard`. -/
def ofDocument (document : Toml.Item) : Decode.Result Settings :=
  let readiness := (document.get? "readiness").getD (.closed [])
  (record .toml fun _ => readiness.choice Readiness.byName).fill standard document.toJson

/-- Reads settings from the text of a file, without judging them. -/
def read (text : String) : Except SettingsError Settings :=
  match Toml.read text with
  | none => .error .notToml
  | some document =>
    match ofDocument document with
    | .error e => .error (.wrongShape e)
    | .ok s => .ok s

/-- Reads settings from the text of a file and refuses those that break a rule. -/
def ofToml (text : String) : Except SettingsError Settings :=
  match read text with
  | .error e => .error e
  | .ok s => s.validate.map fun _ => s

def toJson (s : Settings) : Json :=
  .obj
    [("collector", .str s.collector),
      ("interpreter", .ofStrings s.interpreter),
      ("benchmarks_root", .str s.benchmarksRoot),
      ("output_dir", .str s.outputDir),
      ("script_dir", .ofString? s.scriptDir),
      ("workload", .str s.workload),
      ("readiness", .str s.readiness.name),
      ("settle_delay_ms", .ofNat s.settleDelayMs),
      ("attach_deadline_ms", .ofNat s.attachDeadlineMs),
      ("stop_timeout_ms", .ofNat s.stopTimeoutMs),
      ("spawn_timeout_secs", .ofNat s.spawnTimeoutSecs),
      ("inputs", .obj (s.inputs.map fun (name, payload) => (name, payload.toJson)))]

end Settings

end SyscallProfiler
