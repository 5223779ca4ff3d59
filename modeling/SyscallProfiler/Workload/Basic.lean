import SyscallProfiler.Decode

/-!
# Workload units
-/

namespace SyscallProfiler

/-- A unit of workload code. Its identity is its category and its name. -/
structure Workload where
  name : String
  category : String
  codePath : String
  inputPath : String
deriving DecidableEq, Repr, Inhabited

namespace Workload

def toJson (u : Workload) : Json :=
  .obj [("name", .str u.name), ("category", .str u.category), ("code_path", .str u.codePath),
    ("input_path", .str u.inputPath)]

/-- A unit while its fields are being decoded. -/
structure Draft where
  name : Option String
  category : Option String
  codePath : Option String
  inputPath : Option String

/-- How a unit is written. -/
def record : Decode.Record Draft where
  name := "WorkloadUnit"
  closed := false
  fields :=
    [⟨"name", fun d v => (Decode.string v).map fun s => { d with name := some s }, false⟩,
      ⟨"category", fun d v => (Decode.string v).map fun s => { d with category := some s }, false⟩,
      ⟨"code_path", fun d v => (Decode.path v).map fun s => { d with codePath := some s }, false⟩,
      ⟨"input_path", fun d v => (Decode.path v).map fun s => { d with inputPath := some s },
        false⟩]

def decode (v : Json) : Decode.Result Workload := do
  let d ← record.fill ⟨none, none, none, none⟩ v
  return {
    name := ← Decode.required "name" d.name
    category := ← Decode.required "category" d.category
    codePath := ← Decode.required "code_path" d.codePath
    inputPath := ← Decode.required "input_path" d.inputPath }

end Workload

end SyscallProfiler
