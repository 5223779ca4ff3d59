import SyscallProfiler.Json.Printer
import SyscallProfiler.Json.Reader
import SyscallProfiler.Text.Printable

/-!
# Decoding values into typed data

A decoder turns a value into typed data or says why it cannot. Records are decoded field by field
in the order in which the value has them, and the first field that cannot be decoded is the
answer; only after all of them have been decoded is the first missing field reported.

Values come from JSON or from TOML. Both have the same shape, but the two notations word a few
errors differently, so messages take the dialect as a parameter.
-/

namespace SyscallProfiler

/-- The notation that a value was written in. -/
inductive Dialect where
  | json
  | toml
deriving DecidableEq, Repr

namespace Decode

/-- What was found where something else was expected. -/
inductive Found where
  | null
  | bool (b : Bool)
  | int (n : Int)
  | float (x : Binary64)
  | str (s : String)
  | list
  | map
deriving DecidableEq, Repr

/-- Why a value could not be decoded. -/
inductive Error where
  | wrongType (found : Found) (expected : String)
  | wrongValue (found : Found) (expected : String)
  | wrongLength (length : Nat) (expected : String)
  | missingField (name : String)
  | duplicateField (name : String)
  | unknownField (name : String) (known : List String)
  | unknownVariant (name : String) (known : List String)
  /-- A choice was neither a name nor a table. -/
  | notAChoice
  /-- A choice was a table with a number of entries other than one. -/
  | notOneChoice (empty : Bool)
  /-- The entry of a choice was not an empty table; `found` says what it was. -/
  | choiceNotTable (found : String)
  /-- The entry of a choice was not empty; `headed` says that headers opened its elements. -/
  | choiceNotEmpty (headed : Bool)
deriving DecidableEq, Repr

abbrev Result (α : Type) := Except Error α

/-- What a value is. -/
def Found.of : Json → Found
  | .null => .null
  | .bool b => .bool b
  | .int n => .int n
  | .float x => .float x
  | .str s => .str s
  | .arr _ => .list
  | .obj _ => .map

/-- A number with a point and without an exponent, however large or small it is. -/
def plainFloatText : Binary64 → List Char
  | .finite negative m e =>
    let magnitude :=
      if m == 0 then ['0', '.', '0']
      else
        let (c, p) := Decimal.shortest m e
        Json.decimalText ⟨-400, 400⟩ c p
    if negative then '-' :: magnitude else magnitude
  | .infinite negative => if negative then ['-', 'i', 'n', 'f'] else ['i', 'n', 'f']
  | .nan => ['N', 'a', 'N']

/-- A floating-point number as messages about the given notation show it. -/
def floatText : Dialect → Binary64 → List Char
  | .json, x => Json.floatText x
  | .toml, x => plainFloatText x

/-- What was found, in words. -/
def Found.text (dialect : Dialect) : Found → String
  | .null => "null"
  | .bool b => s!"boolean `{b}`"
  | .int n => s!"integer `{n}`"
  | .float x => s!"floating point `{String.ofList (floatText dialect x)}`"
  | .str s => s!"string {Text.shown s}"
  | .list => "sequence"
  | .map => "map"

/-- A list of names to choose from, in words. -/
def oneOf : List String → String
  | [a] => s!"`{a}`"
  | [a, b] => s!"`{a}` or `{b}`"
  | names => "one of " ++ ", ".intercalate (names.map fun a => s!"`{a}`")

def Error.message (dialect : Dialect) : Error → String
  | .wrongType found expected => s!"invalid type: {found.text dialect}, expected {expected}"
  | .wrongValue found expected => s!"invalid value: {found.text dialect}, expected {expected}"
  | .wrongLength n expected => s!"invalid length {n}, expected {expected}"
  | .missingField name => s!"missing field `{name}`"
  | .duplicateField name => s!"duplicate field `{name}`"
  | .unknownField name known => s!"unknown field `{name}`, expected {oneOf known}"
  | .unknownVariant name known => s!"unknown variant `{name}`, expected {oneOf known}"
  | .notAChoice => "wanted string or table"
  | .notOneChoice empty =>
    if empty then "wanted exactly 1 element, found 0 elements"
    else "wanted exactly 1 element, more than 1 element"
  | .choiceNotTable found => s!"expected table, found {found}"
  | .choiceNotEmpty headed => if headed then "expected empty array" else "expected empty table"

def wrongType {α : Type} (v : Json) (expected : String) : Result α :=
  .error (.wrongType (.of v) expected)

/-! ## Plain data -/

def string : Json → Result String
  | .str s => .ok s
  | v => wrongType v "a string"

/-- The text of a path. -/
def path : Json → Result String
  | .str s => .ok s
  | v => wrongType v "path string"

def bool : Json → Result Bool
  | .bool b => .ok b
  | v => wrongType v "a boolean"

/-- An integer in a range, whose name is `expected`. -/
def integer (low high : Int) (expected : String) : Json → Result Int
  | .int n => if low ≤ n && n ≤ high then .ok n else .error (.wrongValue (.int n) expected)
  | v => wrongType v expected

def nat64 (v : Json) : Result Nat :=
  (integer 0 (Int.ofNat Json.maxUnsigned) "u64" v).map Int.toNat

def nat32 (v : Json) : Result Nat :=
  (integer 0 (Int.ofNat (Nat.pow 2 32 - 1)) "u32" v).map Int.toNat

def int32 (v : Json) : Result Int :=
  integer (-Int.ofNat (Nat.pow 2 31)) (Int.ofNat (Nat.pow 2 31 - 1)) "i32" v

def anything (v : Json) : Result Json := .ok v

/-- Nothing, written `null`, or something. -/
def option {α : Type} (item : Json → Result α) : Json → Result (Option α)
  | .null => .ok none
  | v => (item v).map some

/-- Each value of a list in turn. -/
def each {α : Type} (item : Json → Result α) : List Json → Result (List α)
  | [] => .ok []
  | v :: rest =>
    match item v with
    | .error e => .error e
    | .ok a =>
      match each item rest with
      | .error e => .error e
      | .ok as => .ok (a :: as)

def list {α : Type} (item : Json → Result α) : Json → Result (List α)
  | .arr items => each item items
  | v => wrongType v "a sequence"

/-- A pair, written as a list of two. -/
def pair {α β : Type} (first : Json → Result α) (second : Json → Result β) :
    Json → Result (α × β)
  | .arr [] => .error (.wrongLength 0 "a tuple of size 2")
  | .arr [a] =>
    match first a with
    | .error e => .error e
    | .ok _ => .error (.wrongLength 1 "a tuple of size 2")
  | .arr (a :: b :: rest) =>
    match first a with
    | .error e => .error e
    | .ok x =>
      match second b with
      | .error e => .error e
      | .ok y =>
        if rest.isEmpty then .ok (x, y)
        else .error (.wrongLength (rest.length + 2) "fewer elements in array")
  | v => wrongType v "a tuple of size 2"

/-- The value of each field in turn, with its key. -/
def eachField {α : Type} (item : Json → Result α) : Json.Fields → Result (List (String × α))
  | [] => .ok []
  | (k, v) :: rest =>
    match item v with
    | .error e => .error e
    | .ok a =>
      match eachField item rest with
      | .error e => .error e
      | .ok as => .ok ((k, a) :: as)

/-- A table from strings to data, in ascending order of its keys. -/
def table {α : Type} (item : Json → Result α) : Json → Result (List (String × α))
  | .obj fields => (eachField item fields).map Json.sortFields
  | v => wrongType v "a map"

/-! ## Choices -/

/-- The choice with the given name. -/
def named {α : Type} (choices : List (String × α)) (name : String) : Result α :=
  match Json.lookup name choices with
  | some a => .ok a
  | none => .error (.unknownVariant name (choices.map (·.1)))

/-- What may stand beside the name of a choice that carries no data. -/
def noData : Json → Result Unit
  | .null => .ok ()
  | v => wrongType v "unit"

/-- One of several choices without data: its name, or a table with the name as its only key. -/
def choice {α : Type} (choices : List (String × α)) : Json → Result α
  | .str name => named choices name
  | .obj [(name, data)] =>
    match named choices name with
    | .error e => .error e
    | .ok a => (noData data).map fun _ => a
  | .obj _ => .error (.wrongValue .map "map with a single key")
  | v => wrongType v "string or map"

/-! ## Records -/

/-- A field of a record that is being decoded into a draft of type `σ`. -/
structure Field (σ : Type) where
  /-- The key of the field. -/
  name : String
  /-- Decodes the value of the field and puts it into the draft. -/
  fill : σ → Json → Result σ
  /-- Whether a record written as a list may end before this field. -/
  optional : Bool

/-- A kind of record. -/
structure Record (σ : Type) where
  /-- What messages call the record. -/
  name : String
  /-- The fields in the order of their declaration. -/
  fields : List (Field σ)
  /-- Whether keys that are no field are errors; otherwise they are passed over. -/
  closed : Bool

namespace Record

variable {σ : Type}

def field? (r : Record σ) (key : String) : Option (Field σ) :=
  r.fields.find? fun f => f.name == key

/-- Fills a draft from the fields of an object, in their order. -/
def fillFields (r : Record σ) (draft : σ) : Json.Fields → Result σ
  | [] => .ok draft
  | (key, v) :: rest =>
    match r.field? key with
    | some f =>
      match f.fill draft v with
      | .error e => .error e
      | .ok draft => r.fillFields draft rest
    | none =>
      if r.closed then .error (.unknownField key (r.fields.map (·.name)))
      else r.fillFields draft rest

/-- What a record written as a list should be. -/
def expectedLength (r : Record σ) : String :=
  s!"struct {r.name} with {r.fields.length} elements"

/-- Fills a draft from a list that has the fields in the order of their declaration. `done` counts
the fields before these. -/
def fillItems (r : Record σ) (total : Nat) (draft : σ) : (done : Nat) → List (Field σ) →
    List Json → Result σ
  | _, [], [] => .ok draft
  | _, [], _ :: _ => .error (.wrongLength total "fewer elements in array")
  | done, f :: fs, [] =>
    if f.optional then r.fillItems total draft (done + 1) fs []
    else .error (.wrongLength done r.expectedLength)
  | done, f :: fs, v :: vs =>
    match f.fill draft v with
    | .error e => .error e
    | .ok draft => r.fillItems total draft (done + 1) fs vs

/-- Fills a draft from an object or a list. -/
def fill (r : Record σ) (draft : σ) : Json → Result σ
  | .obj fields => r.fillFields draft fields
  | .arr items => r.fillItems items.length draft 0 r.fields items
  | v => wrongType v s!"struct {r.name}"

end Record

/-- The value of a field that must be there. -/
def required {α : Type} (name : String) : Option α → Result α
  | some a => .ok a
  | none => .error (.missingField name)

end Decode

end SyscallProfiler
