/-!
# Shell commands

The commands of a shell script as trees. A word is a list of parts that are expanded one by one;
the text of a command substitution is kept as it stands and is read when it is run.
-/

namespace SyscallProfiler.Shell

/-- What happens to the value of a parameter. -/
inductive ParamOp where
  | plain
  /-- The number of its characters. -/
  | length
  /-- A word stands in for a parameter that is not set or, with a colon, empty. -/
  | default (colon : Bool)
  /-- The same, and the parameter takes the value of the word. -/
  | assign (colon : Bool)
  /-- A word stands in for a parameter that is set. -/
  | alternative (colon : Bool)
  /-- The shell ends with a message if the parameter is not set. -/
  | demand (colon : Bool)
  /-- A pattern is cut off at the end. -/
  | cutEnd (longest : Bool)
  /-- A pattern is cut off at the beginning. -/
  | cutStart (longest : Bool)
  /-- No operator at all. -/
  | wrong
deriving DecidableEq, Repr, Inhabited

/-- A part of a word. -/
inductive Part where
  | literal (text : String) (quoted : Bool)
  | param (name : String) (op : ParamOp) (word : List Part) (quoted : Bool)
  /-- The output of a command, whose text begins on a line. -/
  | command (text : String) (line : Nat) (quoted : Bool)
  | arithmetic (word : List Part) (quoted : Bool)
deriving Repr, Inhabited

/-- A word before expansion. -/
abbrev Word := List Part

/-- What is done to a descriptor before a command runs. -/
inductive RedirectKind where
  | read
  /-- Opens a file for writing; `force` says that it may be there already in any case. -/
  | write (force : Bool)
  | append
  | readWrite
  /-- Makes it the same as another descriptor, or closes it. -/
  | same
  /-- Makes it read the text that the target stands for. -/
  | text
deriving DecidableEq, Repr, Inhabited

/-- A redirection of a descriptor. -/
structure Redirect where
  descriptor : Nat
  kind : RedirectKind
  target : Word
deriving Repr, Inhabited

/-- A command with its words, and the line on which it begins. -/
structure Simple where
  line : Nat
  assignments : List (String × Word)
  words : List Word
  redirects : List Redirect
deriving Repr, Inhabited

/-- A command of any kind. -/
inductive Tree where
  | simple (s : Simple)
  | pipeline (parts : List Tree)
  | negated (t : Tree)
  | both (first second : Tree)
  | either (first second : Tree)
  | sequence (items : List Tree)
  | background (t : Tree)
  | branch (condition yes no : Tree)
  /-- Runs a body while a condition holds, or until it does. -/
  | loop (untilHolds : Bool) (condition body : Tree)
  | each (line : Nat) (name : String) (words : List Word) (body : Tree)
  | choose (line : Nat) (word : Word) (arms : List (List Word × Tree))
  | subshell (line : Nat) (t : Tree)
  | define (line : Nat) (name : String) (body : Tree)
  | redirected (line : Nat) (redirects : List Redirect) (t : Tree)
deriving Repr, Inhabited

def Tree.nothing : Tree := .sequence []

end SyscallProfiler.Shell
