import SyscallProfiler.Machine.Demand
import SyscallProfiler.Machine.Process
import SyscallProfiler.Shell.Printing

/-!
# Filters

A filter reads sources one after the other. It either writes what it makes of each piece as it
comes, or reads everything before it writes. Octets are read as characters one by one.
-/

namespace SyscallProfiler.Machine

namespace Filter

/-- What a filter that has read everything writes. -/
structure Result where
  output : List UInt8
  complaints : String
  status : Nat
  /-- What is written to files besides. -/
  files : List (String × List UInt8)

/-- What of the input of a filter settles the beginning of its output before all has been read. -/
inductive Settled where
  | nothing
  /-- The lines that are whole. -/
  | lines
  /-- Everything. -/
  | octets
deriving DecidableEq, Repr, Inhabited

/-- What a filter does. -/
structure Work where
  /-- The sources; a hyphen stands for the standard input. -/
  sources : List String
  /-- What is written for a piece at once. -/
  piece : Option (List UInt8 → List UInt8)
  /-- Whether no more has to be read of a source, where that may be. -/
  enough : Option (List UInt8 → Bool)
  /-- How many octets at the end of what has been read of a source are given back. -/
  spare : List UInt8 → Nat
  /-- What is written early: the beginning of what is written in the end. -/
  settled : Settled
  /-- Whether what is made of the first sources is the beginning of all that is written. -/
  bySource : Bool
  /-- What is written in the end, and the status if nothing has gone wrong before. -/
  finish : List Gathered → Result

/-- Why a filter does not start: a complaint and a status. -/
abbrev Plan := Except (String × Nat) Work

def sourcesOf (operands : List String) : List String :=
  if operands.isEmpty then ["-"] else operands

def helpLine (called : String) : String := s!"Try \x27{called} --help\x27 for more information."

def usage (called text : String) (status : Nat) : String × Nat :=
  (s!"{called}: {text}\n{helpLine called}", status)

def demand (called : String) (k : Knowledge) (status : Nat) (args : List String) :
    Except (String × Nat) Demand :=
  (Demand.ofArgs k args).mapError fun fault => usage called fault.message status

/-- A filter that reads everything before it writes. -/
def whole (sources : List String) (finish : List Gathered → List UInt8) : Work where
  sources
  piece := none
  enough := none
  spare := fun _ => 0
  settled := .nothing
  bySource := false
  finish := fun all => ⟨finish all, "", 0, []⟩

/-- A filter that makes something of line after line. -/
def linewise (sources : List String) (finish : List Gathered → List UInt8) : Work :=
  { whole sources finish with settled := .lines, bySource := true }

def octetwise (sources : List String) (finish : List Gathered → List UInt8) : Work :=
  { whole sources finish with settled := .octets, bySource := true }

def piecewise (sources : List String) (make : List UInt8 → List UInt8) : Work where
  sources
  piece := some make
  enough := none
  spare := fun _ => 0
  settled := .nothing
  bySource := false
  finish := fun _ => ⟨[], "", 0, []⟩

/-! ## Octets, characters and lines -/

def charsOf (content : List UInt8) : List Char := content.map fun b => Char.ofNat b.toNat

def octetsOf (text : List Char) : List UInt8 := text.map fun c => UInt8.ofNat c.toNat

def octets (text : String) : List UInt8 := Text.Octets.bytes text

/-- The lines of a text, without what ends them. -/
def linesOf (text : List Char) (ending : Char) : List (List Char) :=
  match text.splitOn ending with
  | [] => []
  | parts => if parts.getLast? = some [] then parts.dropLast else parts

def unlines (lines : List (List Char)) (ending : Char) : List Char :=
  lines.flatMap (· ++ [ending])

def lines (content : List UInt8) : List (List Char) := linesOf (charsOf content) '\n'

def ofLines (lines : List (List Char)) : List UInt8 := octetsOf (unlines lines '\n')

/-- Lines with what ends them, each with its own. -/
def pieces (content : List UInt8) : List (List UInt8) :=
  let rec go : List UInt8 → List (List UInt8)
    | [] => []
    | b :: rest =>
      if b = 10 then [b] :: go rest
      else
        match rest, go rest with
        | [], _ => [[b]]
        | _, [] => [[b]]
        | _, line :: more => (b :: line) :: more
  go content

def everything (all : List Gathered) : List UInt8 := all.flatMap (·.content)

/-- Fills a text up with blanks on its left. -/
def padLeft (width : Nat) (text : String) : String :=
  String.ofList (List.replicate (width - text.length) ' ') ++ text

/-- The factor that a letter after a number stands for. -/
def factor? : String → Option Nat
  | "" => some 1
  | "b" => some 512
  | "k" | "K" | "KiB" => some 1024
  | "kB" | "KB" => some 1000
  | "m" | "M" | "MiB" => some 1048576
  | "MB" => some 1000000
  | "G" | "GiB" => some 1073741824
  | "GB" => some 1000000000
  | _ => none

def count? (text : List Char) : Option Nat :=
  let digits := text.takeWhile Json.isDigit
  if digits.isEmpty then none
  else (factor? (String.ofList (text.drop digits.length))).map (Json.ofDigits digits * ·)

end Filter

end SyscallProfiler.Machine
