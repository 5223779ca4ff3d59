import SyscallProfiler.OsError
import SyscallProfiler.Payload

/-!
# Invocation scripts

A script tells an interpreter which code to load and what input to give it. It is written as one
compact JSON object and read field by field: keys that are no field are passed over, and a field
that comes a second time is refused as soon as its key has been read. A script may also be a list
of its two fields.
-/

namespace SyscallProfiler

/-- What to load, and with which input. -/
structure Script where
  codePath : String
  input : Payload
deriving DecidableEq

/-- Why a text is no script, or why a script has no text. -/
inductive ScriptError where
  /-- The text is not JSON. -/
  | text (e : Json.SyntaxError)
  /-- The text is JSON, as far as it was read, but not of the right shape. -/
  | shape (e : Decode.Error)
  /-- The text could not be written. -/
  | unwritten (e : OsError)
deriving DecidableEq, Repr

def ScriptError.message : ScriptError → String
  | .text e => e.message
  | .shape e => e.message .json
  | .unwritten e => e.message

namespace Script

def toJson (s : Script) : Json :=
  .obj [("code_path", .str s.codePath), ("input", s.input.toJson)]

def text (s : Script) : String := s.toJson.text

/-- What messages call a script. -/
def expected : String := "struct InvocationScript"

/-- What messages call a script written as a list. -/
def expectedItems : String := "struct InvocationScript with 2 elements"

/-- The error of a value that begins `text` and is not what was expected. A list or an object is
not read any further; everything else is read, and may turn out to be no value at all. -/
def mismatch (wanted : String) (text : List Char) : ScriptError :=
  match Json.skipSpace text with
  | [] => .text .endOfValue
  | c :: rest =>
    if c = '[' then .shape (.wrongType .list wanted)
    else if c = '{' then .shape (.wrongType .map wanted)
    else
      match Json.readScalar c rest with
      | .error e => .text e
      | .ok (v, _) => .shape (.wrongType (.of v) wanted)

/-- Reads the path of the code. -/
def readCodePath (text : List Char) : Except ScriptError (String × List Char) :=
  match Json.skipSpace text with
  | '"' :: rest =>
    match Json.readString rest with
    | .error e => .error (.text e)
    | .ok (s, later) => .ok (s, later)
  | other => .error (mismatch "path string" other)

/-- Reads the input. The script and the input are two of the levels that may be nested. -/
def readInput (text : List Char) : Except ScriptError (Payload × List Char) :=
  match Json.skipSpace text with
  | '{' :: rest =>
    match Json.readFields (Json.readValue (Json.maxDepth - 2)) rest with
    | .error e => .error (.text e)
    | .ok (fields, later) => .ok (.ofPairs fields, later)
  | other => .error (mismatch "a map" other)

/-- A script while its fields are being read. -/
structure Draft where
  codePath : Option String
  input : Option Payload

def Draft.empty : Draft := ⟨none, none⟩

/-- The script, once both fields have been read. -/
def Draft.finish (d : Draft) : Except ScriptError Script :=
  match d.codePath, d.input with
  | some codePath, some input => .ok { codePath, input }
  | none, _ => .error (.shape (.missingField "code_path"))
  | some _, none => .error (.shape (.missingField "input"))

def readColon (text : List Char) : Except ScriptError (List Char) :=
  match Json.readColon text with
  | .error e => .error (.text e)
  | .ok rest => .ok rest

/-- Reads what follows a key. -/
def readField (d : Draft) (key : String) (text : List Char) :
    Except ScriptError (Draft × List Char) :=
  if key = "code_path" then
    if d.codePath.isSome then .error (.shape (.duplicateField key))
    else
      match readColon text with
      | .error e => .error e
      | .ok rest =>
        match readCodePath rest with
        | .error e => .error e
        | .ok (path, later) => .ok ({ d with codePath := some path }, later)
  else if key = "input" then
    if d.input.isSome then .error (.shape (.duplicateField key))
    else
      match readColon text with
      | .error e => .error e
      | .ok rest =>
        match readInput rest with
        | .error e => .error e
        | .ok (input, later) => .ok ({ d with input := some input }, later)
  else
    match readColon text with
    | .error e => .error e
    | .ok rest =>
      match Json.skip rest with
      | .error e => .error (.text e)
      | .ok later => .ok (d, later)

/-- Reads the fields from one of their keys on: `place` is the text after the opening quotation
mark of a key, or the text after the closing brace. `fuel` bounds the number of fields. -/
def readFieldsFrom : (fuel : Nat) → Draft → (place : List Char ⊕ List Char) →
    Except ScriptError (Draft × List Char)
  | _, d, .inr rest => .ok (d, rest)
  | 0, _, .inl _ => .error (.text .endOfObject)
  | fuel + 1, d, .inl text =>
    match Json.readString text with
    | .error e => .error (.text e)
    | .ok (key, rest) =>
      match readField d key rest with
      | .error e => .error e
      | .ok (d, later) =>
        match Json.nextKey later with
        | .error e => .error (.text e)
        | .ok place => readFieldsFrom fuel d place

/-- Goes to an item of a list after the one before it. -/
def nextItem (count : Nat) (text : List Char) : Except ScriptError (List Char) :=
  match Json.skipSpace text with
  | [] => .error (.text .endOfList)
  | ']' :: _ => .error (.shape (.wrongLength count expectedItems))
  | ',' :: rest =>
    match Json.skipSpace rest with
    | [] => .error (.text .endOfValue)
    | ']' :: _ => .error (.text .trailingComma)
    | later => .ok later
  | _ => .error (.text .expectedListEnd)

/-- Goes to the first item of a list. -/
def firstItem (text : List Char) : Except ScriptError (List Char) :=
  match Json.skipSpace text with
  | [] => .error (.text .endOfList)
  | ']' :: _ => .error (.shape (.wrongLength 0 expectedItems))
  | later => .ok later

/-- Leaves a list after its last item. -/
def leaveList (text : List Char) : Except ScriptError (List Char) :=
  match Json.skipSpace text with
  | [] => .error (.text .endOfList)
  | ']' :: rest => .ok rest
  | ',' :: rest =>
    match Json.skipSpace rest with
    | ']' :: _ => .error (.text .trailingComma)
    | _ => .error (.text .trailingCharacters)
  | _ => .error (.text .trailingCharacters)

/-- Reads a script written as a list. -/
def readItems (text : List Char) : Except ScriptError (Script × List Char) :=
  match firstItem text with
  | .error e => .error e
  | .ok first =>
    match readCodePath first with
    | .error e => .error e
    | .ok (codePath, rest) =>
      match nextItem 1 rest with
      | .error e => .error e
      | .ok second =>
        match readInput second with
        | .error e => .error e
        | .ok (input, rest) =>
          match leaveList rest with
          | .error e => .error e
          | .ok later => .ok ({ codePath, input }, later)

/-- Reads a script written as an object. -/
def readObject (text : List Char) : Except ScriptError (Script × List Char) :=
  match Json.firstKey text with
  | .error e => .error (.text e)
  | .ok place =>
    match readFieldsFrom (text.length + 1) .empty place with
    | .error e => .error e
    | .ok (d, rest) =>
      match d.finish with
      | .error e => .error e
      | .ok s => .ok (s, rest)

/-- Reads the script at the beginning of a text. -/
def readFront (text : List Char) : Except ScriptError (Script × List Char) :=
  match Json.skipSpace text with
  | '{' :: rest => readObject rest
  | '[' :: rest => readItems rest
  | other => .error (mismatch expected other)

/-- Reads a text that is one script. -/
def read (text : List Char) : Except ScriptError Script :=
  match readFront text with
  | .error e => .error e
  | .ok (s, rest) =>
    if (Json.skipSpace rest).isEmpty then .ok s else .error (.text .trailingCharacters)

end Script

end SyscallProfiler
