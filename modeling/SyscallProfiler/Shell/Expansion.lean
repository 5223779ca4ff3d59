import SyscallProfiler.Shell.Arithmetic
import SyscallProfiler.Shell.Fields

/-!
# Expanding words

Parameters are put in, the results of unquoted ones are divided into fields, names of files take
the place of patterns, and quoting is removed.

Expanding stops where the output of a command is needed. Once the command has been run, the words
are expanded again from the beginning, with the outputs that are known.
-/

namespace SyscallProfiler.Shell

/-- Why expanding stops. -/
inductive Halt where
  /-- The output of a command is needed, which is run with these variables. -/
  | output (text : String) (line : Nat) (v : Variables)
  | fault (message : String)
deriving Repr, Inhabited

/-- What expanding works with: the variables, and the outputs of commands that have not been put
in yet. -/
structure Expanding where
  vars : Variables
  outputs : List String
deriving Repr, Inhabited

/-- A computation that expands something. -/
abbrev Expand := StateT Expanding (Except Halt)

namespace Expand

def fail {α : Type} (message : String) : Expand α := throw (.fault message)

def vars : Expand Variables := return (← get).vars

def setVars (v : Variables) : Expand Unit := modify fun s => { s with vars := v }

def output (text : String) (line : Nat) : Expand String := do
  let s ← get
  match s.outputs with
  | known :: rest =>
    set { s with outputs := rest }
    return known
  | [] => throw (.output text line s.vars)

end Expand

/-- Where a part stands. -/
structure Place where
  /-- Whether the word is divided into fields. -/
  full : Bool
  /-- Whether the part stands in the word of another parameter. -/
  inner : Bool
deriving DecidableEq, Repr, Inhabited

def missing (value : Option String) (colon : Bool) : Bool :=
  match value with
  | none => true
  | some s => colon && s == ""

def isAllArgs (name : String) : Bool := name = "@" || name = "*"

def joinedArgs (v : Variables) : String :=
  let between :=
    match v.value? "IFS" with
    | none => " "
    | some s => String.ofList (s.toList.take 1)
  between.intercalate v.args

def valueOf (v : Variables) (name : String) : Option String :=
  if isAllArgs name then if v.args.isEmpty then none else some (joinedArgs v)
  else v.parameter? name

def argAtoms (v : Variables) (name : String) (place : Place) (quoted : Bool) : List Atom :=
  if !place.full || (quoted && name = "*") then
    if v.args.isEmpty && name = "@" then [] else Atom.ofText (joinedArgs v) quoted (!quoted)
  else if quoted then
    ((v.args.map fun a => Atom.ofText a true false).intersperse [.break_]).flatten
  else
    .edge :: ((v.args.map fun a => a.toList.map fun c => Atom.char c false true).intersperse
      [.char Atom.parting false true]).flatten

/-- The atoms of a parameter as it is. -/
def plainAtoms (v : Variables) (name : String) (place : Place) (quoted : Bool) : List Atom :=
  if isAllArgs name then argAtoms v name place quoted
  else Atom.ofText ((v.parameter? name).getD "") quoted (!quoted)

/-- The atoms of a parameter of which something is cut off. Of all arguments, it is cut off where
the first one begins or the last one ends. -/
def cutAtoms (v : Variables) (name : String) (place : Place) (quoted : Bool)
    (cut : List Char → List Char) : List Atom :=
  if isAllArgs name && place.full && (!quoted || name = "@") then
    let all := (v.args.map String.toList).intersperse [Atom.parting]
    let kept := cut all.flatten
    let atoms := kept.map fun c =>
      if quoted && c = Atom.parting then .break_ else Atom.char c quoted (!quoted)
    if quoted then .empty :: atoms else .edge :: atoms
  else
    let kept := cut ((valueOf v name).getD "").toList
    Atom.ofText (String.ofList kept) quoted (!quoted)

def notSetMessage (name : String) (orNull : Bool) : String :=
  name ++ ": parameter not set" ++ if orNull then " or null" else ""

/-- Refuses a parameter that is not set, if the shell has been told to. -/
def checkSet (name : String) (value : Option String) : Expand Unit := do
  if value.isNone && (← Expand.vars).has 'u' && !isAllArgs name then
    Expand.fail (notSetMessage name false)

/-! ## Home directories -/

/-- The home directory that a tilde stands for, with the name after it. -/
def homeOf (v : Variables) (name : String) : Option String :=
  if name = "" then (v.value? "HOME").filter (· != "")
  else if name = "root" then some "/root"
  else none

/-- Puts a home directory in the place of a tilde at the beginning of a text. `more` says that the
word goes on after the text. -/
def expandTilde (v : Variables) (more : Bool) (text : List Char) : List Atom :=
  let kept (cs : List Char) : List Atom := cs.map fun c => Atom.char c false false
  match text with
  | '~' :: rest =>
    let name := rest.takeWhile fun c => c != '/' && c != ':'
    let later := rest.drop name.length
    if later.isEmpty && more then kept text
    else
      match homeOf v (String.ofList name) with
      | some home => (home.toList.map fun c => Atom.char c true false) ++ kept later
      | none => kept text
  | text => kept text

/-- The atoms of the text at the beginning of a word. In the value of an assignment, directories
stand between colons. -/
def headAtoms (v : Variables) (value more : Bool) (text : String) : List Atom :=
  if value then
    let pieces := text.toList.splitOn ':'
    ((pieces.zipIdx.map fun (piece, i) =>
      expandTilde v (more && i + 1 == pieces.length) piece).intersperse
        [.char ':' false false]).flatten
  else expandTilde v more text.toList

/-! ## Parts -/

mutual

def expandPart (place : Place) : Part → Expand (List Atom)
  | .literal text quoted => return Atom.ofText text quoted (place.inner && !quoted)
  | .command text line quoted => return Atom.ofText (← Expand.output text line) quoted (!quoted)
  | .arithmetic word quoted => do
    let text := textOf (← expandParts ⟨false, false⟩ word)
    match Arithmetic.evaluate (← Expand.vars) text.toList with
    | .ok (n, v) =>
      Expand.setVars v
      return Atom.ofText (toString n.toInt) quoted (!quoted)
    | .error fault => Expand.fail (fault.message text)
  | .param name op word quoted => do
    let v ← Expand.vars
    let value := valueOf v name
    let inside : Place := ⟨place.full, true⟩
    match op with
    | .plain =>
      checkSet name value
      return plainAtoms v name place quoted
    | .wrong => Expand.fail "Bad substitution"
    | .length =>
      checkSet name value
      return Atom.ofText (toString (value.getD "").length) quoted (!quoted)
    | .default colon =>
      if missing value colon then expandParts inside word else return plainAtoms v name place quoted
    | .assign colon =>
      if !missing value colon then return plainAtoms v name place quoted
      else
        let text := textOf (← expandParts ⟨false, true⟩ word)
        match (← Expand.vars).assign name text with
        | .error message => Expand.fail message
        | .ok v =>
          Expand.setVars v
          return plainAtoms v name place quoted
    | .alternative colon =>
      if missing value colon then return if quoted then [.empty] else []
      else expandParts inside word
    | .demand colon =>
      if !missing value colon then return plainAtoms v name place quoted
      else if word.isEmpty then Expand.fail (notSetMessage name colon)
      else
        let text := textOf (← expandParts ⟨false, true⟩ word)
        Expand.fail (name ++ ": " ++ text)
    | .cutEnd longest =>
      checkSet name value
      let marks := marksOf (← expandParts ⟨false, true⟩ word)
      return cutAtoms v name place quoted (Pattern.cutEnd longest (Pattern.ofMarks marks))
    | .cutStart longest =>
      checkSet name value
      let marks := marksOf (← expandParts ⟨false, true⟩ word)
      return cutAtoms v name place quoted (Pattern.cutStart longest (Pattern.ofMarks marks))

def expandParts (place : Place) : List Part → Expand (List Atom)
  | [] => return []
  | part :: rest => do
    let atoms ← expandPart place part
    let later ← expandParts place rest
    return atoms ++ later

end

/-- Expands a whole word; `value` says that it is the value of an assignment. -/
def expandWhole (place : Place) (value : Bool) : Word → Expand (List Atom)
  | .literal text false :: rest => do
    let atoms := headAtoms (← Expand.vars) value (!rest.isEmpty) text
    return atoms ++ (← expandParts place rest)
  | w => expandParts place w

/-! ## Words -/

/-- The names that a field stands for: those that it matches as a pattern, or itself. -/
def namesOf (v : Variables) (glob : List Mark → List String) (field : List Mark) : List String :=
  if !v.has 'f' && Pattern.isPattern field then
    match glob field with
    | [] => [textOfMarks field]
    | names => names
  else [textOfMarks field]

/-- Expands a word to fields. -/
def expandWord (glob : List Mark → List String) (w : Word) : Expand (List String) := do
  let atoms ← expandWhole ⟨true, false⟩ false w
  let v ← Expand.vars
  return (fieldsOf v.separators atoms).flatMap (namesOf v glob)

/-- Expands a word to one text. -/
def expandText (w : Word) : Expand String :=
  return textOf (← expandWhole ⟨false, false⟩ false w)

def expandValue (w : Word) : Expand String :=
  return textOf (← expandWhole ⟨false, false⟩ true w)

/-- Expands the argument of a command that assigns. -/
def expandAssignment (w : Word) : Expand String := do
  match w with
  | .literal text false :: rest =>
    let name := text.toList.takeWhile (· != '=')
    let value := String.ofList (text.toList.drop (name.length + 1))
    let head := String.ofList (name ++ ['='])
    return head ++ (← expandValue (if value = "" then rest else .literal value false :: rest))
  | w => expandText w

def assigningCommands : List String := ["export", "readonly", "local", "alias"]

/-- Whether a word is an assignment by its form. -/
def isAssignment (w : Word) : Bool := (assignment? w).isSome

def expandArgs (glob : List Mark → List String) (assigns : Bool) :
    List Word → Expand (List String)
  | [] => return []
  | w :: rest => do
    let here ←
      if assigns && isAssignment w then do pure [← expandAssignment w] else expandWord glob w
    return here ++ (← expandArgs glob assigns rest)

def expandWords (glob : List Mark → List String) : List Word → Expand (List String)
  | [] => return []
  | w :: rest => do
    match ← expandWord glob w with
    | [] => expandWords glob rest
    | name :: args =>
      return name :: args ++ (← expandArgs glob (assigningCommands.contains name) rest)

def expandList (glob : List Mark → List String) (words : List Word) : Expand (List String) :=
  expandArgs glob false words

/-- The descriptor that a text names, or the one that is closed. -/
def descriptorNamed? (text : String) : Option (Option Nat) :=
  match text.toList with
  | ['-'] => some none
  | [d] => if Json.isDigit d then some (some (Json.digitValue d)) else none
  | _ => none

def expandTargets : List Redirect → Expand (List (Redirect × String))
  | [] => return []
  | r :: rest => do
    let target ← expandText r.target
    if r.kind = .same && (descriptorNamed? target).isNone then
      Expand.fail "Syntax error: Bad fd number"
    return (r, target) :: (← expandTargets rest)

def matchesAny (text : List Char) : List Word → Expand Bool
  | [] => return false
  | w :: rest => do
    let marks := marksOf (← expandWhole ⟨false, false⟩ false w)
    if Pattern.matches_ (Pattern.ofMarks marks) text then return true
    else matchesAny text rest

/-- The tree of the first arm with a pattern that a text matches. -/
def matchingArm (text : List Char) : List (List Word × Tree) → Expand (Option Tree)
  | [] => return none
  | (patterns, body) :: rest => do
    if ← matchesAny text patterns then return some body else matchingArm text rest

/-- Expands the word of a choice and finds its arm. -/
def expandChoice (word : Word) (arms : List (List Word × Tree)) : Expand (Option Tree) := do
  let text ← expandText word
  matchingArm text.toList arms

end SyscallProfiler.Shell
