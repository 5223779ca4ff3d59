import SyscallProfiler.Text.Quoting

/-!
# What a tool is asked to do

The arguments of a tool are options and operands. An option is a letter, or a word after two
hyphens; some take a value. Options may stand between operands unless a tool reads them in order
only.
-/

namespace SyscallProfiler.Machine

/-- The options that a tool knows. -/
structure Knowledge where
  /-- The letters of options without a value. -/
  flags : String
  /-- The letters of options with a value. -/
  valued : String
  /-- The words that stand for letters. -/
  words : List (String × Char)
  /-- Whether everything from the first operand on is an operand. -/
  ordered : Bool
deriving Repr, Inhabited

/-- Options and operands in the order in which they were given. -/
structure Demand where
  options : List (Char × String)
  operands : List String
deriving Repr, Inhabited

/-- Why arguments cannot be read. -/
inductive DemandFault where
  | unknown (letter : Char)
  | unknownWord (text : String)
  | noValue (letter : Char)
  | noWordValue (word : String)
  | unwanted (word : String)
deriving DecidableEq, Repr, Inhabited

def DemandFault.message : DemandFault → String
  | .unknown letter => "invalid option -- " ++ Text.Quoting.plainly (String.ofList [letter])
  | .unknownWord text => "unrecognized option " ++ "\x27" ++ text ++ "\x27"
  | .noValue letter =>
    "option requires an argument -- " ++ Text.Quoting.plainly (String.ofList [letter])
  | .noWordValue word => "option " ++ "\x27--" ++ word ++ "\x27 requires an argument"
  | .unwanted word => "option " ++ "\x27--" ++ word ++ "\x27 doesn\x27t allow an argument"

namespace Demand

def has (d : Demand) (letter : Char) : Bool := d.options.any fun (c, _) => c == letter

def hasAny (d : Demand) (letters : String) : Bool :=
  d.options.any fun (c, _) => letters.toList.contains c

def value? (d : Demand) (letter : Char) : Option String :=
  (d.options.reverse.find? fun (c, _) => c == letter).map (·.2)

def values (d : Demand) (letter : Char) : List String :=
  (d.options.filter fun (c, _) => c == letter).map (·.2)

def lastOf (d : Demand) (letters : String) : Option Char :=
  (d.options.reverse.find? fun (c, _) => letters.toList.contains c).map (·.1)

/-- Reads letters after a hyphen; the next argument may be a value. Gives the options and whether
the next argument has been taken. -/
def letters (k : Knowledge) (next : Option String) :
    List Char → Except DemandFault (List (Char × String) × Bool)
  | [] => .ok ([], false)
  | c :: rest =>
    if k.flags.toList.contains c then
      (letters k next rest).map fun (options, taken) => ((c, "") :: options, taken)
    else if k.valued.toList.contains c then
      if rest.isEmpty then
        match next with
        | some value => .ok ([(c, value)], true)
        | none => .error (.noValue c)
      else .ok ([(c, String.ofList rest)], false)
    else .error (.unknown c)

/-- The word that a text begins or is, if only one can be meant. -/
def wordFor? (k : Knowledge) (text : String) : Option (String × Char) :=
  match k.words.find? fun (w, _) => w == text with
  | some found => some found
  | none =>
    match k.words.filter fun (w, _) => text.toList.isPrefixOf w.toList with
    | [] => none
    | found :: more => if more.all fun (_, c) => c == found.2 then some found else none

def withOptions (options : List (Char × String)) (d : Demand) : Demand :=
  { d with options := options ++ d.options }

def read (k : Knowledge) : (fuel : Nat) → List String → Except DemandFault Demand
  | 0, args => .ok ⟨[], args⟩
  | fuel + 1, args =>
    match args with
    | [] => .ok ⟨[], []⟩
    | "--" :: rest => .ok ⟨[], rest⟩
    | arg :: rest =>
      match arg.toList with
      | '-' :: '-' :: text =>
        let name := text.takeWhile (· != '=')
        let value := text.drop name.length
        match wordFor? k (String.ofList name) with
        | none => .error (.unknownWord arg)
        | some (word, c) =>
          if k.valued.toList.contains c then
            match value, rest with
            | _ :: v, rest => (read k fuel rest).map (withOptions [(c, String.ofList v)])
            | [], v :: rest => (read k fuel rest).map (withOptions [(c, v)])
            | [], [] => .error (.noWordValue word)
          else if value.isEmpty then (read k fuel rest).map (withOptions [(c, "")])
          else .error (.unwanted word)
      | '-' :: c :: cs => do
        let (options, taken) ← letters k rest.head? (c :: cs)
        let d ← read k fuel (if taken then rest.tail else rest)
        return withOptions options d
      | _ =>
        if k.ordered then .ok ⟨[], args⟩
        else (read k fuel rest).map fun d => { d with operands := arg :: d.operands }

def ofArgs (k : Knowledge) (args : List String) : Except DemandFault Demand :=
  read k (args.length + 1) args

end Demand

end SyscallProfiler.Machine
