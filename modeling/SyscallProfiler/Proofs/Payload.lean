import SyscallProfiler.Payload
import SyscallProfiler.Proofs.Json.Bindings
import SyscallProfiler.Proofs.Json.Canonical
import SyscallProfiler.Proofs.Text.Octets

/-!
# The text of a payload

A payload is what its pairs bind last, and its text shows exactly that: payloads made from pairs
have the same text if and only if their pairs bind every name to the same value. The names stand in
the text in ascending order of their octets, each once, so neither the order of pairs with
different names nor a value that is bound over leaves a trace.
-/

namespace SyscallProfiler.Payload

variable {pairs pairs' : Json.Fields}

theorem get?_ofPairs (pairs : Json.Fields) (name : String) :
    (ofPairs pairs).get? name = Json.lastBound? name pairs :=
  Json.lookup_sortFields name pairs

theorem ofPairs_eq_iff :
    ofPairs pairs = ofPairs pairs' ↔
      ∀ name, Json.lastBound? name pairs = Json.lastBound? name pairs' := by
  rw [← Json.sortFields_eq_iff]
  constructor
  · intro same
    exact congrArg fields same
  · intro same
    exact Payload.ext same

/-- A payload has no values but those of its pairs. -/
theorem exact_ofPairs (exact : ∀ f ∈ pairs, f.2.Exact) : (ofPairs pairs).toJson.Exact := by
  refine ⟨Json.ascending_sortFields pairs, Json.exactFields_iff.mpr ?_⟩
  rintro ⟨name, value⟩ among
  have bound : Json.lastBound? name pairs = some value := Json.mem_sortFields_iff.mp among
  exact exact (name, value) (Json.mem_of_lastBound? bound)

theorem text_inj {p q : Payload} (hp : p.toJson.Exact) (hq : q.toJson.Exact) :
    p.text = q.text ↔ p = q := by
  rw [text, text, Json.text_inj hp hq]
  constructor
  · intro same
    exact Payload.ext (Json.obj.inj same)
  · rintro rfl
    rfl

/-- The names of a payload ascend by their octets. -/
theorem names_ascending (p : Payload) :
    (p.fields.map Prod.fst).Pairwise fun k l => Text.Utf8.encode k < Text.Utf8.encode l := by
  rw [List.pairwise_map]
  exact p.ascending.imp fun less => Text.Utf8.encode_lt_iff.mpr less

/-- Payloads are made from any two lists of pairs, with values that are nested in any way and hold
no floating-point numbers. They have the same text exactly if each name is bound to the same value
last, or not at all, in both lists. That value is what a payload holds, and its text is that of
the fields bound so, in ascending order of the octets of their names, each name once. Pairs with
different names may change places: neighbours always, and all pairs if no name stands twice. -/
theorem ofPairs_canonical (exact : ∀ f ∈ pairs, f.2.Exact) (exact' : ∀ f ∈ pairs', f.2.Exact) :
    ((ofPairs pairs).text = (ofPairs pairs').text ↔
      ∀ name, Json.lastBound? name pairs = Json.lastBound? name pairs') ∧
    (∀ name, (ofPairs pairs).get? name = Json.lastBound? name pairs) ∧
    (∃ fields : Json.Fields,
      (ofPairs pairs).text = "\x7b" ++ ",".intercalate (fields.map Json.fieldText) ++ "\x7d" ∧
      ((fields.map Prod.fst).Pairwise fun k l => Text.Utf8.encode k < Text.Utf8.encode l) ∧
      ∀ name value, (name, value) ∈ fields ↔ Json.lastBound? name pairs = some value) ∧
    (∀ before f g after, pairs = before ++ f :: g :: after → f.1 ≠ g.1 →
      (ofPairs (before ++ g :: f :: after)).text = (ofPairs pairs).text) ∧
    ∀ reordered, pairs.Perm reordered → (pairs.map Prod.fst).Nodup →
      (ofPairs reordered).text = (ofPairs pairs).text := by
  refine ⟨?_, get?_ofPairs pairs, ⟨(ofPairs pairs).fields, ?_, names_ascending _, ?_⟩, ?_, ?_⟩
  · rw [text_inj (exact_ofPairs exact) (exact_ofPairs exact'), ofPairs_eq_iff]
  · exact Json.text_obj _
  · intro name value
    exact Json.mem_sortFields_iff
  · rintro before f g after rfl other
    exact congrArg text (ofPairs_eq_iff.mpr (Json.lastBound?_swap other before after))
  · intro reordered perm distinct
    exact congrArg text (ofPairs_eq_iff.mpr fun name =>
      (Json.lastBound?_perm perm distinct name).symm)

/-- A list with an object in it, and a name that is bound over. Both lists of pairs come to the
same text, so no name tells them apart. -/
theorem ofPairs_canonical_nested :
    let inner : Json := .arr [.obj [("\"", .str "\n"), ("k", .int (-1))], .null]
    let pairs : Json.Fields := [("b", .int 1), ("a,", inner), ("b", .bool true)]
    let pairs' : Json.Fields := [("b", .bool true), ("a,", inner)]
    (∀ f ∈ pairs, f.2.Exact) ∧ (∀ f ∈ pairs', f.2.Exact) ∧
      (ofPairs pairs).text = (ofPairs pairs').text ∧
      ∀ name, Json.lastBound? name pairs = Json.lastBound? name pairs' := by
  intro inner pairs pairs'
  have exact : ∀ f ∈ pairs, f.2.Exact := by decide
  have exact' : ∀ f ∈ pairs', f.2.Exact := by decide
  have same : (ofPairs pairs).text = (ofPairs pairs').text := by decide +kernel
  exact ⟨exact, exact', same, (ofPairs_canonical exact exact').1.mp same⟩

end SyscallProfiler.Payload
