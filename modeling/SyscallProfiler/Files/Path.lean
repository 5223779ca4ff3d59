/-!
# Paths as texts

A path is kept as it was given. Two paths are joined as texts, and a path is taken apart at its
slashes only when it is looked up.
-/

namespace SyscallProfiler.Path

/-- The parts of a text between slashes; consecutive slashes have an empty part between them. -/
def splitSlash : List Char → List (List Char)
  | [] => [[]]
  | c :: rest =>
    if c = '/' then [] :: splitSlash rest
    else
      match splitSlash rest with
      | [] => [[c]]
      | part :: parts => (c :: part) :: parts

/-- The parts of a path between slashes. -/
def components (path : String) : List String :=
  (splitSlash path.toList).map String.ofList

def isAbsolute (path : String) : Bool :=
  match path.toList with
  | '/' :: _ => true
  | _ => false

/-- The path of `name` as seen from the directory `dir`. -/
def join (dir name : String) : String :=
  if isAbsolute name then name
  else
    match dir.toList.getLast? with
    | none => name
    | some '/' => dir ++ name
    | some _ => dir ++ "/" ++ name

/-- The path with everything after its last slash replaced by `name`. -/
def withFileName (path name : String) : String :=
  let kept := path.toList.reverse.dropWhile (· != '/')
  String.ofList kept.reverse ++ name

/-- Whether a text holds the character that ends paths. -/
def hasNul (path : String) : Bool := path.toList.any fun c => c.toNat == 0

/-- How many octets a part of a path may have. -/
def longestPart : Nat := 255

/-- How many octets a path may have. -/
def longest : Nat := 4095

/-- Whether a text is too long to be the name of an entry. -/
def isLongPart (name : String) : Bool := name.utf8ByteSize > longestPart

/-- Whether a text is too long to be looked up. -/
def isLong (path : String) : Bool := path.utf8ByteSize > longest

end SyscallProfiler.Path
