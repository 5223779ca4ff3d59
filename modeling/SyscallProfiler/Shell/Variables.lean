/-!
# What a shell knows by name

The variables, the arguments, the special parameters and the options of a shell.
-/

namespace SyscallProfiler.Shell

/-- A variable. One that has been given no value can still be marked. -/
structure Variable where
  name : String
  value : Option String
  exported : Bool
  readOnly : Bool
deriving DecidableEq, Repr, Inhabited

/-- What a shell knows while it expands words. -/
structure Variables where
  /-- What the script is called. -/
  name : String
  args : List String
  all : List Variable
  /-- The code of the last command. -/
  status : Nat
  /-- The number of the shell's process. -/
  pid : Nat
  /-- The number of the last process in the background. -/
  background : Option Nat
  /-- The letters of the options that are on. -/
  options : List Char
deriving Repr, Inhabited

namespace Variables

def optionNames : List (String × Char) :=
  [("errexit", 'e'), ("noglob", 'f'), ("ignoreeof", 'I'), ("interactive", 'i'), ("monitor", 'm'),
    ("noexec", 'n'), ("stdin", 's'), ("xtrace", 'x'), ("verbose", 'v'), ("vi", 'V'),
    ("emacs", 'E'), ("noclobber", 'C'), ("allexport", 'a'), ("notify", 'b'), ("nounset", 'u'),
    ("privileged", 'p'), ("nolog", '1'), ("debug", '2')]

def has (v : Variables) (option : Char) : Bool := v.options.contains option

def setOption (v : Variables) (option : Char) (on : Bool) : Variables :=
  let others := v.options.filter (· != option)
  { v with options := if on then option :: others else others }

/-- The letters of the options that are on, as the parameter `-` has them. -/
def optionLetters (v : Variables) : String :=
  String.ofList ((optionNames.map (·.2)).reverse.filter fun c => v.has c && c.isAlpha)

def lookup? (v : Variables) (name : String) : Option Variable :=
  v.all.find? fun x => x.name == name

def value? (v : Variables) (name : String) : Option String :=
  (v.lookup? name).bind (·.value)

/-- Changes a variable, which is made if it is not there. -/
def change (v : Variables) (name : String) (f : Variable → Variable) : Variables :=
  if v.all.any fun x => x.name == name then
    { v with all := v.all.map fun x => if x.name == name then f x else x }
  else { v with all := f ⟨name, none, false, false⟩ :: v.all }

def set (v : Variables) (name value : String) : Variables :=
  v.change name fun x => { x with value := some value, exported := x.exported || v.has 'a' }

def isReadOnly (v : Variables) (name : String) : Bool :=
  ((v.lookup? name).map (·.readOnly)).getD false

def readOnlyMessage (name : String) : String := name ++ ": is read only"

/-- Gives a variable a value if that is allowed. -/
def assign (v : Variables) (name value : String) : Except String Variables :=
  if v.isReadOnly name then .error (readOnlyMessage name) else .ok (v.set name value)

def unset (v : Variables) (name : String) : Variables :=
  { v with all := v.all.filter fun x => x.name != name }

def putBack (v : Variables) (name : String) (before : Option Variable) : Variables :=
  match before with
  | none => v.unset name
  | some x => v.change name fun _ => x

/-- The variables that are handed on to other programs. -/
def environment (v : Variables) : List (String × String) :=
  v.all.filterMap fun x => if x.exported then x.value.map fun s => (x.name, s) else none

/-- The value of a parameter that is not a list. -/
def parameter? (v : Variables) (name : String) : Option String :=
  match name with
  | "#" => some (toString v.args.length)
  | "?" => some (toString v.status)
  | "$" => some (toString v.pid)
  | "!" => v.background.map toString
  | "-" => some v.optionLetters
  | "0" => some v.name
  | name =>
    match name.toNat? with
    | some 0 => some v.name
    | some n => v.args[n - 1]?
    | none => v.value? name

def separators (v : Variables) : String := (v.value? "IFS").getD " \t\n"

end Variables

end SyscallProfiler.Shell
