/-!
# Native workload units

A unit is a loadable object with an entry point. Calling the entry point with an input text gives
a status and, as a rule, an output; a status of zero means that the output is the returned value.
-/

namespace SyscallProfiler

/-- Text as native code leaves it: read up to its first NUL. -/
inductive RawText where
  | text (s : String)
  | octets (bs : List UInt8)
deriving DecidableEq, Repr, Inhabited

/-- What an entry point puts into its output. -/
inductive Reply where
  /-- Its own input. -/
  | echo
  /-- How often it has been called since its unit was loaded. -/
  | callCount
  /-- Always the same text. -/
  | always (text : RawText)
  /-- Nothing at all. -/
  | nothing
deriving DecidableEq, Repr, Inhabited

/-- A loadable object. -/
structure NativeUnit where
  /-- What the entry point returns. -/
  status : Int
  reply : Reply
  /-- What the entry point writes to standard output. -/
  chatter : String
  /-- Whether there is an entry point at all. -/
  hasHandler : Bool
deriving DecidableEq, Repr, Inhabited

/-- What one call of an entry point did. -/
structure Handled where
  status : Int
  output : Option RawText
  chatter : String
deriving DecidableEq, Repr, Inhabited

/-- The first call after loading. Every invocation loads its unit afresh. -/
def NativeUnit.call (u : NativeUnit) (input : String) : Handled :=
  { status := u.status
    chatter := u.chatter
    output :=
      match u.reply with
      | .echo => some (.text input)
      | .callCount => some (.text "\x7b\"calls\": 1\x7d")
      | .always t => some t
      | .nothing => none }

end SyscallProfiler
