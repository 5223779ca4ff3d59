import SyscallProfiler.Machine.Redirection
import SyscallProfiler.Shell.Listing

/-!
# Builtins that change what a shell knows by name

Variables, arguments, options and aliases. A builtin either goes on with the shell or fails with a
complaint.
-/

namespace SyscallProfiler.Machine

/-- What a builtin comes to. -/
abbrev Outcome := Except String Machine

/-- Reads the letters after hyphens at the beginning of arguments, as builtins do: the options, and
the rest of the arguments. -/
def readOptions (flags valued : String) : (fuel : Nat) → List String →
    Except String (List (Char × String) × List String)
  | 0, args => .ok ([], args)
  | fuel + 1, args =>
    match args with
    | [] => .ok ([], [])
    | arg :: rest =>
      match arg.toList with
      | ['-', '-'] => .ok ([], rest)
      | '-' :: c :: letters => go fuel rest (c :: letters)
      | _ => .ok ([], args)
where
  /-- Reads the letters of one argument. -/
  go (fuel : Nat) (rest : List String) : List Char →
      Except String (List (Char × String) × List String)
    | [] => readOptions flags valued fuel rest
    | c :: more => do
      if flags.toList.contains c then
        let (options, args) ← go fuel rest more
        return ((c, "") :: options, args)
      else if !valued.toList.contains c then .error s!"Illegal option -{c}"
      else if !more.isEmpty then
        let (options, args) ← readOptions flags valued fuel rest
        return ((c, String.ofList more) :: options, args)
      else
        match rest with
        | [] => .error s!"No arg for -{c} option"
        | value :: rest =>
          let (options, args) ← readOptions flags valued fuel rest
          return ((c, value) :: options, args)

def optionsOf (flags valued : String) (args : List String) :
    Except String (List (Char × String) × List String) :=
  readOptions flags valued (args.length + 1) args

def given (options : List (Char × String)) (c : Char) : Bool := options.any fun (d, _) => d == c

def numberIn (arg : String) : Except String Nat :=
  let digits := arg.toList
  let n := Json.ofDigits digits
  if !digits.isEmpty && digits.all Json.isDigit && n < Nat.pow 2 31 then .ok n
  else .error s!"Illegal number: {arg}"

/-- The name in an argument that may be an assignment, and its value. -/
def splitAssignment (arg : String) : String × Option String :=
  let name := arg.toList.takeWhile (· != '=')
  match arg.toList.drop name.length with
  | _ :: value => (String.ofList name, some (String.ofList value))
  | [] => (arg, none)

/-- Refuses what cannot be the name of a variable. -/
def checkName (name : String) : Except String Unit :=
  if Shell.isName name then .ok () else .error s!"{name}: bad variable name"

/-- Gives a variable a value, or none, and marks it. -/
def declare (v : Shell.Variables) (mark : Shell.Variable → Shell.Variable) (arg : String) :
    Except String Shell.Variables := do
  let (name, value) := splitAssignment arg
  match value with
  | none =>
    if (v.lookup? name).isNone then checkName name
    return v.change name mark
  | some value =>
    checkName name
    return (← v.assign name value).change name mark

def declareAll (mark : Shell.Variable → Shell.Variable) : Shell.Variables → List String →
    Except String Shell.Variables
  | v, [] => .ok v
  | v, arg :: rest => do declareAll mark (← declare v mark arg) rest

def withVariables (m : Machine) (p : Process) (s : ShellState) (v : Shell.Variables) : Machine :=
  m.settle p { s with vars := v } 0

/-- The builtins `export` and `readonly`. -/
def runDeclare (m : Machine) (p : Process) (s : ShellState) (name : String)
    (isMarked : Shell.Variable → Bool) (mark : Shell.Variable → Shell.Variable)
    (args : List String) : Outcome := do
  let (options, names) ← optionsOf "p" "" args
  if given options 'p' || names.isEmpty then
    let listed := Shell.Listing.ofVariables name (s.vars.all.filter isMarked)
    return m.tell p s name listed 0
  else return m.withVariables p s (← declareAll mark s.vars names)

/-- Makes variables of a function its own: what they were before is kept with the function. -/
def localise (name : String) (before : Option Shell.Variable) (options : List Char) :
    List Frame → List Frame
  | [] => []
  | .returning args saved kept place :: rest =>
    if name = "-" then .returning args saved (some (kept.getD options)) place :: rest
    else if saved.any fun (n, _) => n == name then .returning args saved kept place :: rest
    else .returning args ((name, before) :: saved) kept place :: rest
  | frame :: rest => frame :: localise name before options rest

def runLocal (m : Machine) (p : Process) (s : ShellState) : List String → Outcome
  | [] =>
    if inFunction s.stack then .ok (m.settle p s 0) else .error "not in a function"
  | arg :: rest => do
    if !inFunction s.stack then .error "not in a function"
    let (name, _) := splitAssignment arg
    let stack := localise name (s.vars.lookup? name) s.vars.options s.stack
    let vars ← if arg = "-" then pure s.vars else declare s.vars id arg
    runLocal m p { s with vars, stack } rest

def runUnset (m : Machine) (p : Process) (s : ShellState) (args : List String) : Outcome := do
  let (options, names) ← optionsOf "vf" "" args
  let onlyFunctions := (options.getLast?.map (·.1)) == some 'f'
  if onlyFunctions then
    return m.settle p { s with functions := s.functions.filter fun (n, _) => !names.contains n } 0
  else
    let v ← names.foldlM (fun (v : Shell.Variables) name => do
      if v.isReadOnly name then .error (Shell.Variables.readOnlyMessage name)
      else
        checkName name
        return v.unset name) s.vars
    return m.withVariables p s v

/-! ## Arguments and options -/

def withArgs (s : ShellState) (args : List String) : ShellState :=
  { s with vars := { s.vars with args }, optionPlace := ⟨1, none⟩ }

def runShift (m : Machine) (p : Process) (s : ShellState) (args : List String) : Outcome := do
  let n ← (args.head?.map numberIn).getD (.ok 1)
  if n > s.vars.args.length then .error "can\x27t shift that many"
  else return m.settle p (withArgs s (s.vars.args.drop n)) 0

def turnLetter (v : Shell.Variables) (on : Bool) (c : Char) : Except String Shell.Variables :=
  if Shell.Variables.optionNames.any (fun (_, d) => d == c) && c.isAlpha then
    .ok (v.setOption c on)
  else .error s!"Illegal option -{c}"

def turnNamed (v : Shell.Variables) (on : Bool) (name : String) :
    Except String Shell.Variables :=
  match Shell.Variables.optionNames.find? fun (n, _) => n == name with
  | some (_, c) => .ok (v.setOption c on)
  | none => .error s!"Illegal option -o {name}"

/-- What the options before arguments have come to. -/
structure Turned where
  vars : Shell.Variables
  /-- What is listed. -/
  shown : String
  rest : List String
  /-- Whether the arguments are replaced even if there are none. -/
  replaces : Bool
  /-- Whether commands are given as an argument. -/
  inline : Bool

/-- Turns options on and off as arguments say; `starting` says that a shell is starting. -/
def turnOptions (starting : Bool) : (fuel : Nat) → Shell.Variables → List String →
    Except String Turned
  | 0, vars, rest => .ok ⟨vars, "", rest, false, false⟩
  | fuel + 1, vars, args =>
    match args with
    | [] => .ok ⟨vars, "", [], false, false⟩
    | arg :: rest =>
      match arg.toList with
      | ['-'] =>
        let off := if starting then vars else (vars.setOption 'x' false).setOption 'v' false
        .ok ⟨off, "", rest, false, false⟩
      | ['-', '-'] => .ok ⟨vars, "", rest, true, false⟩
      | '-' :: letters => go fuel true vars rest letters
      | '+' :: letters => go fuel false vars rest letters
      | _ => .ok ⟨vars, "", args, false, false⟩
where
  /-- Turns the options of one argument. -/
  go (fuel : Nat) (on : Bool) (vars : Shell.Variables) (rest : List String) :
      List Char → Except String Turned
    | [] => turnOptions starting fuel vars rest
    | c :: more => do
      if c = 'c' && starting then return { ← go fuel on vars rest more with inline := true }
      else if c = 'l' && starting then go fuel on vars rest more
      else if c = 'o' then
        match rest with
        | [] =>
          let shown :=
            if on then Shell.Listing.ofOptions vars else Shell.Listing.optionCommands vars
          let t ← go fuel on vars [] more
          return { t with shown := shown ++ t.shown }
        | name :: rest => go fuel on (← turnNamed vars on name) rest more
      else go fuel on (← turnLetter vars on c) rest more

def runSet (m : Machine) (p : Process) (s : ShellState) (args : List String) : Outcome := do
  if args.isEmpty then
    let listed := Shell.Listing.ofVariables "" (s.vars.all.filter fun x => x.value.isSome)
    return m.tell p s "set" listed 0
  else
    let t ← turnOptions false (args.length + 1) s.vars args
    let s := { s with vars := t.vars }
    let s := if t.replaces || !t.rest.isEmpty then withArgs s t.rest else s
    return m.tell p s "set" t.shown 0

/-! ## Options of arguments -/

/-- What reading one option comes to. -/
structure OptionRead where
  letter : Char
  /-- The value of the option; nothing if there is none to be set. -/
  value : Option String
  place : OptionPlace
  /-- Whether there are no more options. -/
  finished : Bool
  complaint : String

/-- Whether a letter is among those of options, and whether it takes a value. -/
def lookOption (c : Char) : List Char → Option Bool
  | [] => none
  | d :: ':' :: rest => if d = c then some true else lookOption c rest
  | d :: rest => if d = c then some false else lookOption c rest

def readOption (letters : List Char) (args : List String) (place : OptionPlace) : OptionRead :=
  let within : Option (List Char) := do
    let offset ← place.offset
    let arg ← if place.index ≥ 2 then args[place.index - 2]? else none
    if offset < arg.length then some (arg.toList.drop offset) else none
  let finished (index : Nat) : OptionRead := ⟨'?', none, ⟨index, none⟩, true, ""⟩
  let start : Option (List Char) × Nat :=
    match within with
    | some text => (some text, place.index)
    | none =>
      match (args[place.index - 1]?).map String.toList with
      | some ['-', '-'] => (none, place.index + 1)
      | some ('-' :: c :: text) => (some (c :: text), place.index + 1)
      | _ => (none, place.index)
  match start with
  | (some (c :: rest), index) =>
    let length := (args[index - 2]?.getD "").length
    let offset := some (length - rest.length)
    let silent := letters.head? = some ':'
    match lookOption c letters with
    | none =>
      ⟨'?', if silent then some (String.ofList [c]) else none, ⟨index, offset⟩, false,
        if silent then "" else s!"Illegal option -{c}\n"⟩
    | some false => ⟨c, some "", ⟨index, offset⟩, false, ""⟩
    | some true =>
      if !rest.isEmpty then ⟨c, some (String.ofList rest), ⟨index, none⟩, false, ""⟩
      else
        match args[index - 1]? with
        | some value => ⟨c, some value, ⟨index + 1, none⟩, false, ""⟩
        | none =>
          if silent then ⟨':', some (String.ofList [c]), ⟨index, offset⟩, false, ""⟩
          else ⟨'?', none, ⟨index, offset⟩, false, s!"No arg for -{c} option\n"⟩
  | (_, index) => finished index

/-- The place from which options are read on. A value that has been given to the variable for it
counts. -/
def currentPlace (s : ShellState) (count : Nat) : OptionPlace :=
  let shown := (s.vars.value? "OPTIND").getD ""
  let place : OptionPlace :=
    if shown = s.optionShown then s.optionPlace
    else ⟨max 1 ((numberIn shown).toOption.getD 1), none⟩
  if place.index > count + 1 then ⟨1, none⟩ else place

/-- The builtin `getopts`. -/
def runOptions (m : Machine) (p : Process) (s : ShellState) : List String → Outcome
  | letters :: name :: more => do
    let args := if more.isEmpty then s.vars.args else more
    let r := readOption letters.toList args (currentPlace s args.length)
    let shown := toString r.place.index
    let v :=
      if r.finished then s.vars
      else
        match r.value with
        | some value => s.vars.set "OPTARG" value
        | none => s.vars.unset "OPTARG"
    let v ← v.assign "OPTIND" shown
    checkName name
    let v ← v.assign name (String.ofList [r.letter])
    let s := { s with vars := v, optionPlace := r.place, optionShown := shown }
    return (m.say p.pid 2 r.complaint).settle p s (if r.finished then 1 else 0)
  | _ => .error "Usage: getopts optstring var [arg...]"

/-! ## Aliases -/

def showAlias (name text : String) : String := name ++ "=" ++ Shell.Listing.quoted text

def runAlias (m : Machine) (p : Process) (s : ShellState) (args : List String) : Machine :=
  if args.isEmpty then
    let listed := String.join (s.aliases.reverse.map fun (n, text) => showAlias n text ++ "\n")
    m.tell p s "alias" listed 0
  else
    let (m, s, said, status) := args.foldl (fun (m, s, said, status) arg =>
      match splitAssignment arg with
      | (name, some text) =>
        let aliases := (name, text) :: s.aliases.filter fun (n, _) => n != name
        (m, { s with aliases }, said, status)
      | (name, none) =>
        match s.aliases.find? fun (n, _) => n == name with
        | some (_, text) => (m, s, said ++ showAlias name text ++ "\n", status)
        | none => (m.say p.pid 2 s!"alias: {name} not found\n", s, said, 1)) (m, s, "", 0)
    m.tell p s "alias" said status

def runUnalias (m : Machine) (p : Process) (s : ShellState) (args : List String) : Outcome := do
  let (options, names) ← optionsOf "a" "" args
  if given options 'a' then return m.settle p { s with aliases := [] } 0
  else
    let isKnown (name : String) : Bool := s.aliases.any fun (n, _) => n == name
    let unknown := names.filter fun n => !isKnown n
    let m := unknown.foldl (fun m n => m.say p.pid 2 s!"unalias: {n} not found\n") m
    let aliases := s.aliases.filter fun (n, _) => !names.contains n
    return m.settle p { s with aliases } (if unknown.isEmpty then 0 else 1)

end SyscallProfiler.Machine
