import SyscallProfiler.Proofs.Json.RoundTrip

/-!
# The text of a value is its own

Two exact values with the same compact text are the same value, however deep they are nested: what
a reader without a limit makes of the text can only be one of them. The text of an object is that
of its fields, each written on its own, with commas between them.
-/

namespace SyscallProfiler.Json

/-! ## Values with the same text -/

/-- The reader is given as many levels as either value needs, so that it gives both back. -/
theorem eq_of_compact_eq {v w : Json} (hv : v.Exact) (hw : w.Exact) (same : compact v = compact w) :
    v = w := by
  let levels := max v.depth w.depth
  have readV : readValue levels (compact v ++ []) = .ok (v, []) :=
    readValue_compact v hv (Nat.le_max_left ..) nofun
  have readW : readValue levels (compact w ++ []) = .ok (w, []) :=
    readValue_compact w hw (Nat.le_max_right ..) nofun
  rw [same, readW] at readV
  cases readV
  rfl

theorem text_inj {v w : Json} (hv : v.Exact) (hw : w.Exact) : v.text = w.text ↔ v = w := by
  constructor
  · intro same
    exact eq_of_compact_eq hv hw (String.ofList_injective same)
  · rintro rfl
    rfl

theorem exactFields_iff {fields : Fields} : ExactFields fields ↔ ∀ f ∈ fields, f.2.Exact := by
  induction fields with
  | nil => exact iff_of_true trivial nofun
  | cons f rest ih =>
      obtain ⟨key, value⟩ := f
      rw [ExactFields, ih, List.forall_mem_cons]

/-! ## Fields -/

/-- A field as it stands in the text of an object. -/
def fieldText (f : String × Json) : String := (str f.1).text ++ ":" ++ f.2.text

theorem toList_fieldText (f : String × Json) :
    (fieldText f).toList = quoted f.1 ++ ':' :: compact f.2 := by
  simp [fieldText, text, compact]

theorem compactFields_eq_intercalate (fields : Fields) :
    compactFields fields =
      [','].intercalate (fields.map fun f => (fieldText f).toList) ++ ['}'] := by
  induction fields with
  | nil => rfl
  | cons f rest ih =>
      obtain ⟨key, value⟩ := f
      cases rest with
      | nil => simp [compactFields, toList_fieldText]
      | cons g rest =>
          rw [compactFields, ih]
          simp [toList_fieldText]

/-- The text of an object is made of those of its fields. -/
theorem text_obj (fields : Fields) :
    (obj fields).text = "\x7b" ++ ",".intercalate (fields.map fieldText) ++ "\x7d" := by
  apply String.toList_injective
  rw [text, String.toList_ofList, compact, compactFields_eq_intercalate]
  simp [String.toList_intercalate, Function.comp_def]

end SyscallProfiler.Json
