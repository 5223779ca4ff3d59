/-!
# Errors of the operating system
-/

namespace SyscallProfiler

/-- Why the operating system refused something. -/
inductive OsError where
  | noSuchFile
  | cannotExecute
  | badDescriptor
  | permissionDenied
  | exists_
  | notADirectory
  | isADirectory
  | invalidArgument
  | nameTooLong
  | directoryNotEmpty
  | tooManyLinks
  | brokenPipe
  /-- A file that should hold text does not. -/
  | notText
  /-- A path holds the character that ends paths. -/
  | nulInPath
  /-- A command line holds the character that ends arguments. -/
  | nulInArgument
deriving DecidableEq, Repr, Inhabited

namespace OsError

/-- The description and the number of an error; some have no number. -/
def description : OsError → String × Option Nat
  | .noSuchFile => ("No such file or directory", some 2)
  | .cannotExecute => ("Exec format error", some 8)
  | .badDescriptor => ("Bad file descriptor", some 9)
  | .permissionDenied => ("Permission denied", some 13)
  | .exists_ => ("File exists", some 17)
  | .notADirectory => ("Not a directory", some 20)
  | .isADirectory => ("Is a directory", some 21)
  | .invalidArgument => ("Invalid argument", some 22)
  | .nameTooLong => ("File name too long", some 36)
  | .brokenPipe => ("Broken pipe", some 32)
  | .directoryNotEmpty => ("Directory not empty", some 39)
  | .tooManyLinks => ("Too many levels of symbolic links", some 40)
  | .notText => ("stream did not contain valid UTF-8", none)
  | .nulInPath => ("file name contained an unexpected NUL byte", none)
  | .nulInArgument => ("nul byte found in provided data", none)

/-- The description alone, as command-line tools print it. -/
def plain (e : OsError) : String := e.description.1

def message (e : OsError) : String :=
  match e.description with
  | (text, some n) => s!"{text} (os error {n})"
  | (text, none) => text

end OsError

end SyscallProfiler
