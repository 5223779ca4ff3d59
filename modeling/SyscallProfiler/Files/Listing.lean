import SyscallProfiler.Files.Basic
import SyscallProfiler.Json.Number

/-!
# Listings of files

A listing says what a directory is to hold: plain files, directories, symbolic links and loadable
objects, one after the other. It is written as a JSON list with one object for each entry.
-/

namespace SyscallProfiler

namespace Files

/-- An entry of a listing. -/
structure Listed where
  path : String
  node : Node
deriving Inhabited

namespace Listed

/-- The octets that hexadecimal digits stand for, two digits each. -/
def ofHex : List Char → List UInt8
  | a :: b :: rest =>
    match Json.hexValue? a, Json.hexValue? b with
    | some high, some low => UInt8.ofNat (16 * high + low) :: ofHex rest
    | _, _ => []
  | _ => []

/-- The text of a string; the empty text for anything else. -/
def textOf : Json → String
  | .str s => s
  | _ => ""

def isTrue (v : Json) : Bool := v = .bool true

/-- What the description of a loadable object says about its output. -/
def replyOf (v : Json) : Reply :=
  if isTrue (v.field "echo") then .echo
  else if isTrue (v.field "count") then .callCount
  else
    match v.field "output", v.field "output_hex" with
    | .str text, _ => .always (.text text)
    | _, .str digits => .always (.octets (ofHex digits.toList))
    | _, _ => .nothing

/-- The loadable object that a description stands for. -/
def unitOf (v : Json) : NativeUnit where
  status :=
    match v.field "status" with
    | .int n => n
    | _ => 0
  reply := replyOf v
  chatter := textOf (v.field "print")
  hasHandler := !isTrue (v.field "no_handler")

/-- What an object of a listing stands for. -/
def nodeOf (v : Json) : Node :=
  if isTrue (v.field "dir") then .directory []
  else
    match v.field "link", v.field "unit", v.field "hex" with
    | .str target, _, _ => .link target
    | _, .obj fields, _ => .unit (unitOf (.obj fields))
    | _, _, .str digits => .file (ofHex digits.toList) (isTrue (v.field "exec"))
    | _, _, _ =>
      .file (Text.Utf8.encode (textOf (v.field "text"))) (isTrue (v.field "exec"))

def ofJson (v : Json) : Listed := ⟨textOf (v.field "path"), nodeOf v⟩

end Listed

def listing : Json → List Listed
  | .arr items => items.map Listed.ofJson
  | _ => []

/-- Puts an entry into a tree, with the directories above it. An entry that cannot be put there is
left out. -/
def putListed (files : Files) (cwd : Location) (entry : Listed) : Files :=
  if entry.node.isDirectory then (files.makePath cwd entry.path).2
  else
    let above := Path.withFileName entry.path ""
    let files := (files.makePath cwd above).2
    match files.place cwd entry.path with
    | .ok (.vacant directory name) => files.put (directory ++ [name]) entry.node
    | .ok (.found location _) => files.put location entry.node
    | .error _ => files

def putAll (files : Files) (cwd : Location) (entries : List Listed) : Files :=
  entries.foldl (fun files entry => files.putListed cwd entry) files

end Files

end SyscallProfiler
