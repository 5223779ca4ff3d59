import SyscallProfiler.Decode

/-!
# Input payloads

The input of a workload is a mapping from names to values. Its text is the compact JSON object
with ascending keys, so two payloads have the same text only if they bind the same names to the
same values.
-/

namespace SyscallProfiler

/-- The input handed to a workload. -/
structure Payload where
  fields : Json.Fields
  ascending : Json.Ascending fields

namespace Payload

@[ext] theorem ext {p q : Payload} (h : p.fields = q.fields) : p = q := by
  cases p; cases q; simp_all

instance : DecidableEq Payload := fun p q =>
  if h : p.fields = q.fields then isTrue (ext h) else isFalse fun e => h (by rw [e])

/-- The payload that pairs bind; the last binding of a name wins. -/
def ofPairs (pairs : Json.Fields) : Payload :=
  ⟨Json.sortFields pairs, Json.ascending_sortFields pairs⟩

/-- The payload of a workload that has none of its own. -/
def placeholder : Payload := ofPairs [("data", .str "test")]

instance : Inhabited Payload := ⟨placeholder⟩

def get? (p : Payload) (name : String) : Option Json := Json.lookup name p.fields

def toJson (p : Payload) : Json := .obj p.fields

/-- The text handed to a workload. -/
def text (p : Payload) : String := p.toJson.text

/-- The first name, in ascending order, that is bound to a list or an object. -/
def firstNested? (p : Payload) : Option (String × Json) :=
  p.fields.find? fun (_, v) => !v.isScalar

def decode : Json → Decode.Result Payload
  | .obj fields => .ok (ofPairs fields)
  | v => Decode.wrongType v "a map"

end Payload

end SyscallProfiler
