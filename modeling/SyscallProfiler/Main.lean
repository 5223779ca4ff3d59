import SyscallProfiler.CommandLine.Run
import SyscallProfiler.Files.Listing
import SyscallProfiler.Json.Reader
import SyscallProfiler.Machine.Simulation

/-!
# The program

The arguments are those of the command line. The program works on a machine in memory, and standard
input holds a listing of the files that it finds there; nothing at all stands for no files.
-/

namespace SyscallProfiler

/-- The machine with the files of a listing. -/
def simulationOf (text : String) : Except Json.SyntaxError Simulation := do
  let entries ← if text.trimAscii.isEmpty then pure (Json.arr []) else Json.ofText text
  let m := Machine.standard
  let files := m.files.putAll Machine.workplace (Files.listing entries)
  return .ofMachine { m with files } ⟨none, none⟩

end SyscallProfiler

open SyscallProfiler in
/-- Runs the command line on the files that standard input lists. -/
def main (args : List String) : IO UInt32 := do
  let text ← (← IO.getStdin).readToEnd
  match simulationOf text with
  | .error e =>
    IO.eprintln s!"error: the listing of files is no JSON: {e.message}"
    return 2
  | .ok s =>
    let (code, s) := s.run (CommandLine.run args)
    IO.print s.outputText
    IO.eprint s.complaints
    return code.toUInt32
