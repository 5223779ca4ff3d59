import SyscallProfiler.Shell.Pattern

/-!
# Fields

What the parts of a word expand to is put together from atoms. The atoms are then divided into
fields: at the separators in what came out of an expansion that was not quoted, and between the
arguments that a quoted `$@` stands for.
-/

namespace SyscallProfiler.Shell

/-- A piece of an expanded word. -/
inductive Atom where
  /-- A character; one that `splits` may be a separator of fields. -/
  | char (c : Char) (quoted splits : Bool)
  /-- Nothing, but so that the field is there. -/
  | empty
  /-- The end of a field. -/
  | break_
  /-- The beginning of what came out of another expansion. -/
  | edge
deriving DecidableEq, Repr, Inhabited

namespace Atom

def ofText (text : String) (quoted splits : Bool) : List Atom :=
  let chars := text.toList.map fun c => Atom.char c quoted splits
  if quoted then .empty :: chars else if splits then .edge :: chars else chars

/-- A separator that every field ends at. -/
def parting : Char := Char.ofNat 0

end Atom

/-- The characters of atoms, without regard to fields. -/
def marksOf : List Atom → List Mark
  | [] => []
  | .char c quoted _ :: rest => ⟨c, quoted⟩ :: marksOf rest
  | .break_ :: rest => ⟨' ', true⟩ :: marksOf rest
  | .empty :: rest | .edge :: rest => marksOf rest

def textOfMarks (marks : List Mark) : String := String.ofList (marks.map (·.char))

/-- The text of atoms, without regard to fields. -/
def textOf (atoms : List Atom) : String := textOfMarks (marksOf atoms)

/-- The characters that separate fields where nothing else has been said. -/
def isStandardSeparator (c : Char) : Bool :=
  c = ' ' || c = '\t' || c = '\n' || c = Atom.parting

/-- Passes over the separators that belong to the one before them: standard ones, and one that is
not, if `other` says so. -/
def skipSeparators (separators : List Char) (other : Bool) : List Atom → List Atom
  | .char c quoted true :: rest =>
    if quoted then .char c quoted true :: rest
    else if isStandardSeparator c && (c = Atom.parting || separators.contains c) then
      skipSeparators separators other rest
    else if separators.contains c && other then skipSeparators separators false rest
    else .char c quoted true :: rest
  | atoms => atoms

/-- The fields of atoms. `current` is the field that is being put together, in reverse; there is
none where nothing of a field has come yet. -/
def fieldsFrom (separators : List Char) :
    (fuel : Nat) → (current : Option (List Mark)) → List Atom → List (List Mark)
  | 0, current, _ => current.toList.map List.reverse
  | _, current, [] => current.toList.map List.reverse
  | fuel + 1, current, .empty :: rest => fieldsFrom separators fuel (some (current.getD [])) rest
  | fuel + 1, current, .edge :: rest => fieldsFrom separators fuel current rest
  | fuel + 1, current, .break_ :: rest =>
    (current.getD []).reverse :: fieldsFrom separators fuel none rest
  | fuel + 1, current, .char c quoted splits :: rest =>
    if splits && !quoted && (c = Atom.parting || separators.contains c) then
      let standard := isStandardSeparator c
      if current.isNone && standard then fieldsFrom separators fuel none rest
      else
        (current.getD []).reverse ::
          fieldsFrom separators fuel none (skipSeparators separators standard rest)
    else fieldsFrom separators fuel (some (⟨c, quoted⟩ :: current.getD [])) rest

/-- The first field of atoms, and the atoms after its separators. `current` is what has come of it,
in reverse. -/
def firstField (separators : List Char) (current : Option (List Mark)) :
    List Atom → List Mark × List Atom
  | [] => ((current.getD []).reverse, [])
  | .char c quoted splits :: rest =>
    if splits && !quoted && separators.contains c then
      let standard := isStandardSeparator c
      if current.isNone && standard then firstField separators none rest
      else ((current.getD []).reverse, skipSeparators separators standard rest)
    else firstField separators (some (⟨c, quoted⟩ :: current.getD [])) rest
  | _ :: rest => firstField separators current rest

/-- How much of what is left of a line belongs to the last field. One field is taken without what
ends it, and more than one with all but the standard separators at the end. `cut` is where what
does not belong begins, and `spare` says that another separator may belong to the one before. -/
def lastLength (separators : List Char) : (index : Nat) → (cut : Option Nat) → (spare : Bool) →
    (started : Bool) → List Atom → Nat
  | index, cut, _, _, [] => cut.getD index
  | index, cut, spare, started, .char c quoted splits :: rest =>
    let separates := splits && !quoted && separators.contains c
    let standard := separates && isStandardSeparator c
    if !started then
      if separates then lastLength separators (index + 1) (some index) standard true rest
      else lastLength separators (index + 1) none false false rest
    else if standard then lastLength separators (index + 1) (cut.or (some index)) spare true rest
    else
      let cut := if separates && spare then cut else none
      lastLength separators (index + 1) cut false true rest
  | index, cut, spare, started, _ :: rest =>
    lastLength separators (index + 1) cut spare started rest

/-- The last field of atoms: all that is left, but for separators at either end. -/
def lastField (separators : List Char) (atoms : List Atom) : List Mark :=
  let atoms := atoms.dropWhile fun
    | .char c quoted splits =>
      splits && !quoted && separators.contains c && isStandardSeparator c
    | _ => true
  marksOf (atoms.take (lastLength separators 0 none false false atoms))

def fieldsOf (separators : String) (atoms : List Atom) : List (List Mark) :=
  fieldsFrom separators.toList (atoms.length + 1) none atoms

end SyscallProfiler.Shell
