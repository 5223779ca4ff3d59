import SyscallProfiler.Machine.Launch
import SyscallProfiler.Shell.Condition

/-!
# Questions about files

What conditions ask about files, as the machine answers it.
-/

namespace SyscallProfiler.Machine

def answerAbout (question : Shell.Condition.FileQuestion) (node : Node) : Bool :=
  match question, node with
  | .isThere, _ => true
  | .isDirectory, .directory _ => true
  | .isPlain, .file _ _ => true
  | .isPlain, .unit _ => true
  | .isPlain, .tool _ => true
  | .isDevice, .device _ => true
  | .mayExecute, .file _ executable => executable
  | .mayExecute, .tool _ => true
  | .mayExecute, .directory _ => true
  | .hasContent, .directory _ => true
  | .hasContent, node => !node.octets.isEmpty
  | _, _ => false

def answerQuestion (m : Machine) (directory : Location)
    (question : Shell.Condition.FileQuestion) (path : String) : Bool :=
  match question with
  | .isLink =>
    match m.entry directory path with
    | .ok (_, .link _) => true
    | _ => false
  | question =>
    match m.find directory path with
    | .error _ => false
    | .ok (_, node) => answerAbout question node

def isSameFile (m : Machine) (directory : Location) (one other : String) : Bool :=
  match m.find directory one, m.find directory other with
  | .ok (a, _), .ok (b, _) => a == b
  | _, _ => false

def answers (m : Machine) (directory : Location) : Shell.Condition.Answers :=
  ⟨m.answerQuestion directory, m.isSameFile directory⟩

/-- Decides the condition of `test` or `[`. -/
def decideTest (m : Machine) (directory : Location) (name : String) (args : List String) :
    Except String Bool :=
  if name = "[" then
    if args.getLast? = some "]" then
      Shell.Condition.holds (m.answers directory) args.dropLast
    else .error "missing ]"
  else Shell.Condition.holds (m.answers directory) args

end SyscallProfiler.Machine
