import SyscallProfiler.Shell.Reader
import SyscallProfiler.Shell.Variables

/-!
# What a shell says about itself

Values are listed so that a shell can read them again.
-/

namespace SyscallProfiler.Shell.Listing

/-- The apostrophes at the beginning of a text, and what follows them. -/
def spanApostrophes (text : List Char) : List Char × List Char :=
  let front := text.takeWhile (· = '\x27')
  (front, text.drop front.length)

/-- A value between apostrophes; apostrophes in it stand between quotation marks. -/
def quotedFrom : (fuel : Nat) → List Char → List Char
  | 0, _ => []
  | fuel + 1, text =>
    let plain := text.takeWhile (· != '\x27')
    let (marks, later) := spanApostrophes (text.drop plain.length)
    let here := '\x27' :: plain ++ ['\x27']
    if marks.isEmpty then here
    else
      let both := here ++ '"' :: marks ++ ['"']
      if later.isEmpty then both else both ++ quotedFrom fuel later

/-- A value as a shell reads it. -/
def quoted (value : String) : String :=
  String.ofList (quotedFrom (value.length + 1) value.toList)

def ofVariable (x : Variable) : String :=
  match x.value with
  | some value => x.name ++ "=" ++ quoted value
  | none => x.name

/-- Variables by name, one a line, each after a word. -/
def ofVariables (word : String) (all : List Variable) : String :=
  let sorted := all.mergeSort fun a b => a.name ≤ b.name
  String.join (sorted.map fun x => (if word = "" then "" else word ++ " ") ++ ofVariable x ++ "\n")

def ofOptions (v : Variables) : String :=
  let line (name : String) (c : Char) : String :=
    name ++ String.ofList (List.replicate (16 - name.length) ' ') ++
      (if v.has c then "on" else "off") ++ "\n"
  "Current option settings\n" ++
    String.join (Variables.optionNames.map fun (name, c) => line name c)

/-- Commands that turn the options on or off as they are. -/
def optionCommands (v : Variables) : String :=
  String.join (Variables.optionNames.map fun (name, c) =>
    "set " ++ (if v.has c then "-o " else "+o ") ++ name ++ "\n")

end SyscallProfiler.Shell.Listing
