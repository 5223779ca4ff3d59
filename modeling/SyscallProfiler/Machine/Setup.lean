import SyscallProfiler.Machine.Schedule

/-!
# A machine that has just been set up

It has the tools of the system, the usual devices, a directory for temporary files, and an empty
directory to work in. Nothing runs on it.
-/

namespace SyscallProfiler.Machine

def workplace : Location := ["work", "3f9c61d07be24a58"]

def toolEntry (name : String) : String × Node := (name, .tool name)

def profilerName : String := "syscost"

def profilerPath : String := "/usr/bin/" ++ profilerName

/-- The files of a machine that has just been set up. -/
def standardFiles : Files :=
  let programs : Node := .directory ((profilerName :: toolNames).map toolEntry)
  let devices : Node := .directory
    (["null", "tty"].map (fun n => (n, Node.device false)) ++
      ["zero", "full", "random", "urandom"].map fun n => (n, Node.device true))
  let base : Files :=
    ⟨.directory
      [("bin", .link "usr/bin"), ("dev", devices), ("root", .directory []),
        ("tmp", .directory []), ("usr", .directory [("bin", programs)])]⟩
  base.install workplace (.directory [])

/-- A machine that has just been set up. -/
def standard : Machine where
  files := standardFiles
  now := 1000000000
  nextPid := outsider + 1
  nextPipe := 1
  nextOpened := 1
  pipes := []
  opened := []
  processes := []

/-- The variables that programs find around them. -/
def environment (directory : Location) : List (String × String) :=
  [("HOME", "/root"), ("LC_ALL", "C"), ("PATH", ":".intercalate programDirectories),
    ("PWD", absolute directory)]

end SyscallProfiler.Machine
