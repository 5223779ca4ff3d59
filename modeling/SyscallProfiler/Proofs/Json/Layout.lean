import SyscallProfiler.Json.Printer
import SyscallProfiler.Json.Reader

/-!
# Layouts of written values

The two printers put different blanks between the parts of a value and agree on everything else.
A layout says which blanks these are. The text of a value in a layout is cut up as the reader
takes it: a list is its first item and what follows an item, and an object likewise. So what is
proved about reading a text in any layout holds of both printers.
-/

namespace SyscallProfiler.Json

/-- A text of nothing but blanks. -/
def Blanks (text : List Char) : Prop := ∀ c ∈ text, isSpace c = true

/-- The blanks between the parts of a value. -/
structure Layout where
  /-- What stands before an item, a key or a closing bracket at the given depth. -/
  gap : Nat → List Char
  /-- What stands between the colon of a field and its value. -/
  afterColon : List Char
  blanks_gap : ∀ depth, Blanks (gap depth)
  blanks_afterColon : Blanks afterColon

namespace Layout

mutual

/-- A value in a layout, its first line continuing a line at the given depth. -/
def value (l : Layout) (depth : Nat) : Json → List Char
  | .arr items => '[' :: l.items depth items
  | .obj fields => '{' :: l.fields depth fields
  | v => compact v

/-- The items of a list and its closing bracket. -/
def items (l : Layout) (depth : Nat) : List Json → List Char
  | [] => [']']
  | v :: rest => l.gap (depth + 1) ++ (l.value (depth + 1) v ++ l.moreItems depth rest)

/-- What stands in a list behind one of its items. -/
def moreItems (l : Layout) (depth : Nat) : List Json → List Char
  | [] => l.gap depth ++ [']']
  | v :: rest => ',' :: (l.gap (depth + 1) ++ (l.value (depth + 1) v ++ l.moreItems depth rest))

/-- The fields of an object and its closing brace. -/
def fields (l : Layout) (depth : Nat) : Fields → List Char
  | [] => ['}']
  | (k, v) :: rest =>
    l.gap (depth + 1) ++
      (quoted k ++ ':' :: (l.afterColon ++ (l.value (depth + 1) v ++ l.moreFields depth rest)))

/-- What stands in an object behind one of its fields. -/
def moreFields (l : Layout) (depth : Nat) : Fields → List Char
  | [] => l.gap depth ++ ['}']
  | (k, v) :: rest =>
    ',' :: (l.gap (depth + 1) ++
      (quoted k ++ ':' :: (l.afterColon ++ (l.value (depth + 1) v ++ l.moreFields depth rest))))

end

/-! ## The two printers -/

/-- No blanks at all. -/
def tight : Layout where
  gap _ := []
  afterColon := []
  blanks_gap _ := nofun
  blanks_afterColon := nofun

theorem blanks_newline (depth : Nat) : Blanks (newline depth) := by
  intro c hc
  rcases List.mem_cons.mp hc with rfl | blank
  · decide
  · rw [List.eq_of_mem_replicate blank]
    decide

/-- Each part on a line of its own, and a blank behind each colon. -/
def indented : Layout where
  gap := newline
  afterColon := [' ']
  blanks_gap := blanks_newline
  blanks_afterColon := List.forall_mem_singleton.mpr rfl

mutual

theorem tight_value (depth : Nat) : (v : Json) → tight.value depth v = compact v
  | .null | .bool _ | .int _ | .float _ | .str _ => rfl
  | .arr items => by rw [value, compact, tight_items depth items]
  | .obj fields => by rw [value, compact, tight_fields depth fields]

theorem tight_items (depth : Nat) : (items : List Json) →
    tight.items depth items = compactItems items
  | [] => rfl
  | v :: rest => by
      rw [items, tight_value, tight_moreItems depth v rest]
      rfl

/-- The comma stands before an item in the layout and behind it in the printer. -/
theorem tight_moreItems (depth : Nat) (v : Json) : (rest : List Json) →
    compact v ++ tight.moreItems depth rest = compactItems (v :: rest)
  | [] => rfl
  | w :: rest => by
      rw [compactItems, moreItems, tight_value, tight_moreItems depth w rest]
      rfl

theorem tight_fields (depth : Nat) : (fields : Fields) →
    tight.fields depth fields = compactFields fields
  | [] => rfl
  | (k, v) :: rest => by
      rw [fields, tight_value, ← tight_moreFields depth k v rest]
      simp [tight]

theorem tight_moreFields (depth : Nat) (k : String) (v : Json) : (rest : Fields) →
    quoted k ++ ':' :: (compact v ++ tight.moreFields depth rest) = compactFields ((k, v) :: rest)
  | [] => by simp [compactFields, moreFields, tight]
  | (l, w) :: rest => by
      rw [compactFields, moreFields, tight_value, ← tight_moreFields depth l w rest]
      simp [tight]

end

mutual

theorem indented_value (depth : Nat) : (v : Json) → indented.value depth v = pretty depth v
  | .null | .bool _ | .int _ | .float _ | .str _ => rfl
  | .arr [] => rfl
  | .arr (v :: rest) => by
      rw [value, items, pretty, List.cons_append, List.cons_append,
        ← indented_moreItems depth v rest, indented_value]
      rfl
  | .obj [] => rfl
  | .obj ((k, v) :: rest) => by
      rw [value, fields, pretty, List.cons_append, List.cons_append,
        ← indented_moreFields depth k v rest, indented_value]
      rfl

theorem indented_moreItems (depth : Nat) (v : Json) : (rest : List Json) →
    newline (depth + 1) ++ (pretty (depth + 1) v ++ indented.moreItems depth rest) =
      prettyItems (depth + 1) (v :: rest) ++ newline depth ++ [']']
  | [] => by simp [prettyItems, moreItems, indented]
  | w :: rest => by
      have later := indented_moreItems depth w rest
      rw [prettyItems, moreItems, indented_value]
      simp only [List.append_assoc, List.cons_append] at later ⊢
      rw [← later]
      rfl

theorem indented_moreFields (depth : Nat) (k : String) (v : Json) : (rest : Fields) →
    newline (depth + 1) ++
        (quoted k ++ ':' :: ' ' :: (pretty (depth + 1) v ++ indented.moreFields depth rest)) =
      prettyFields (depth + 1) ((k, v) :: rest) ++ newline depth ++ ['}']
  | [] => by simp [prettyFields, moreFields, indented]
  | (l, w) :: rest => by
      have later := indented_moreFields depth l w rest
      rw [prettyFields, moreFields, indented_value]
      simp only [List.append_assoc, List.cons_append] at later ⊢
      rw [← later]
      rfl

end

end Layout

end SyscallProfiler.Json
