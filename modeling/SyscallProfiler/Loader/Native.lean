import SyscallProfiler.Files.Basic
import SyscallProfiler.Payload

/-!
# Loading and running native units

Code is loaded from a path, its entry point is called with the text of a payload, and its output
is decoded. Everything that can go wrong on the way is a fault of the workload.
-/

namespace SyscallProfiler

namespace RawText

/-- The text that is read: up to the first NUL, with a replacement character for each part that is
no text. -/
def upToNul : RawText → String
  | .text s => String.ofList (s.toList.takeWhile fun c => c.toNat != 0)
  | .octets bs => Text.Utf8.decode (bs.takeWhile fun b => b != 0)

end RawText

namespace Loader

/-- Why an object could not be opened. -/
inductive OpenError where
  /-- The file cannot be opened at all. -/
  | unreachable (e : OsError)
  | isADirectory
  | tooShort
  | notAnObject
  /-- It is a program that can only be run. -/
  | isAProgram
deriving DecidableEq, Repr

/-- The wording that the system's loader has for the reason. -/
def OpenError.text : OpenError → String
  | .unreachable e => "cannot open shared object file: " ++ e.plain
  | .isADirectory => "cannot read file data: Is a directory"
  | .tooShort => "file too short"
  | .notAnObject => "invalid ELF header"
  | .isAProgram => "cannot dynamically load position-independent executable"

/-- A failure to load or to run a workload. -/
inductive Fault where
  | badPath (path : String)
  | cannotOpen (path : String) (reason : OpenError)
  | noHandler (path : String)
  | nulInInput
  /-- The workload failed and said so itself. -/
  | reported (message : String)
  /-- The workload failed without a word. -/
  | failed (status : Int)
  | noOutput
  | badOutput (e : Json.SyntaxError)
deriving DecidableEq, Repr

def Fault.message : Fault → String
  | .badPath path => s!"invalid code path: {path}"
  | .cannotOpen path reason => s!"failed to load {path}: {path}: {reason.text}"
  | .noHandler path => s!"missing handler entry point: {path}: undefined symbol: handler"
  | .nulInInput => "input payload contains a NUL byte"
  | .reported message => message
  | .failed status => s!"handler failed with status {status}"
  | .noOutput => "handler returned no output"
  | .badOutput e => s!"handler returned invalid JSON: {e.message}"

/-- How many octets the header of a loadable object has. -/
def headerLength : Nat := 64

/-- Opens an object. A path without a slash is looked for among the system's libraries only. -/
def openObject (files : Files) (cwd : Location) (path : String) : Except OpenError NativeUnit :=
  if !path.toList.contains '/' then
    .error (.unreachable (if Path.isLongPart path then .nameTooLong else .noSuchFile))
  else
    match files.find cwd path with
    | .error e => .error (.unreachable e)
    | .ok (_, .directory _) => .error .isADirectory
    | .ok (_, .unit u) => .ok u
    | .ok (_, .tool _) => .error .isAProgram
    | .ok (_, .device true) => .error .notAnObject
    | .ok (_, node) =>
      if node.octets.length < headerLength then .error .tooShort else .error .notAnObject

/-- What a handled call amounts to. -/
def Handled.value (h : Handled) : Except Fault Json :=
  let output := h.output.map RawText.upToNul
  if h.status ≠ 0 then
    match output with
    | some message => .error (.reported message)
    | none => .error (.failed h.status)
  else
    match output with
    | none => .error .noOutput
    | some text =>
      match Json.ofText text with
      | .error e => .error (.badOutput e)
      | .ok v => .ok v

/-- Calls an entry point with a payload. The second part is what it wrote to standard output. -/
def invoke (handler : String → Handled) (input : Payload) : Except Fault Json × String :=
  if Path.hasNul input.text then (.error .nulInInput, "")
  else
    let handled := handler input.text
    (Handled.value handled, handled.chatter)

/-- Loads the code at a path and calls it with a payload. The second part is what the code wrote to
standard output. -/
def run (files : Files) (cwd : Location) (path : String) (input : Payload) :
    Except Fault Json × String :=
  if Path.hasNul path then (.error (.badPath path), "")
  else
    match openObject files cwd path with
    | .error reason => (.error (.cannotOpen path reason), "")
    | .ok u => if u.hasHandler then invoke u.call input else (.error (.noHandler path), "")

end Loader

end SyscallProfiler
