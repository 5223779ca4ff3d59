import SyscallProfiler.Decode

/-!
# Observation windows

The span of wall-clock time in which a collector was recording, in microseconds. A window holds
its beginning but not its end, so one that has not been open for any time holds no instant.
-/

namespace SyscallProfiler

/-- A span of wall-clock time in microseconds. -/
structure Window where
  startedAt : Nat
  endedAt : Nat
deriving DecidableEq, Repr, Inhabited

namespace Window

/-- A window that opens at a time. -/
def openAt (now : Nat) : Window := ⟨now, now⟩

/-- The window closed at a time, or at its beginning if the clock went back. -/
def closeAt (w : Window) (now : Nat) : Window := { w with endedAt := max now w.startedAt }

/-- How long a window is; nothing if it ends before it starts. -/
def length (w : Window) : Nat := w.endedAt - w.startedAt

/-- Whether two windows have an instant in common. -/
def overlaps (v w : Window) : Bool := v.startedAt < w.endedAt && w.startedAt < v.endedAt

def toJson (w : Window) : Json :=
  .obj [("started_at_us", .ofNat w.startedAt), ("ended_at_us", .ofNat w.endedAt)]

/-- A window while its fields are being decoded. -/
structure Draft where
  startedAt : Option Nat
  endedAt : Option Nat

/-- How a window is written. -/
def record : Decode.Record Draft where
  name := "ObservationWindow"
  closed := false
  fields :=
    [⟨"started_at_us",
        fun d v => (Decode.nat64 v).map fun n => { d with startedAt := some n }, false⟩,
      ⟨"ended_at_us", fun d v => (Decode.nat64 v).map fun n => { d with endedAt := some n }, false⟩]

def decode (v : Json) : Decode.Result Window := do
  let d ← record.fill ⟨none, none⟩ v
  return {
    startedAt := ← Decode.required "started_at_us" d.startedAt
    endedAt := ← Decode.required "ended_at_us" d.endedAt }

end Window

end SyscallProfiler
