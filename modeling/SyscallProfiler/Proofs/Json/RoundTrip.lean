import SyscallProfiler.Proofs.Json.Layout
import SyscallProfiler.Proofs.Json.Shape

/-!
# Reading written values

The reader inverts both printers on every value without floating-point numbers that is not nested
deeper than the reader allows; fields that are not in order it puts in order. It is proved for
every layout at once, because blanks between the parts of a value are passed over. The statement
for one value speaks of the text behind it too, so that the values inside lists and objects are
instances of it; the depth that is left goes down with each container, exactly as it does in the
value.
-/

namespace SyscallProfiler.Json

/-! ## Blanks and brackets -/

theorem isSpace_of_isBlank {c : Char} (h : Text.isBlank c = false) : isSpace c = false := by
  have other : ∀ d : Char, Text.isBlank d = true → c ≠ d := by
    rintro d hd rfl
    simp [h] at hd
  simp [isSpace, other ' ' (by decide), other '\n' (by decide), other '\t' (by decide),
    other '\r' (by decide)]

theorem skipSpace_cons {c : Char} (h : isSpace c = false) (rest : List Char) :
    skipSpace (c :: rest) = c :: rest := by
  simp [skipSpace, h]

/-- Before a value there may be blanks, and the same holds before a comma and a bracket. -/
theorem skipSpace_blanks {gap : List Char} (h : Blanks gap) (text : List Char) :
    skipSpace (gap ++ text) = skipSpace text := by
  induction gap with
  | nil => rfl
  | cons c gap ih =>
      obtain ⟨first, later⟩ := List.forall_mem_cons.mp h
      rw [List.cons_append, skipSpace, if_pos first, ih later]

theorem skipSpace_compact (v : Json) (rest : List Char) :
    skipSpace (compact v ++ rest) = compact v ++ rest := by
  have line := oneLine_compact v
  obtain ⟨c, more, h⟩ := List.exists_cons_of_ne_nil line.ne_nil
  have hc : Text.isBlank c = false := line.tight.1 c (by simp [h])
  rw [h, List.cons_append, skipSpace_cons (isSpace_of_isBlank hc)]

theorem readValue_blanks {gap : List Char} (h : Blanks gap) (levels : Nat) (text : List Char) :
    readValue levels (gap ++ text) = readValue levels text := by
  cases levels <;> simp only [readValue, skipSpace_blanks h]

theorem readValue_scalar {c : Char} (hs : isSpace c = false) (hlist : c ≠ '[')
    (hobject : c ≠ '{') (depth : Nat) (rest : List Char) :
    readValue depth (c :: rest) = readScalar c rest := by
  cases depth <;> simp [readValue, skipSpace_cons hs, hlist, hobject]

theorem readValue_list (depth : Nat) (rest : List Char) :
    readValue (depth + 1) ('[' :: rest) =
      (readItems (readValue depth) rest).map fun (items, later) => (.arr items, later) := by
  rw [readValue, skipSpace_cons (by decide)]
  simp only [if_true]
  cases readItems (readValue depth) rest <;> rfl

theorem readValue_object (depth : Nat) (rest : List Char) :
    readValue (depth + 1) ('{' :: rest) =
      (readFields (readValue depth) rest).map fun (fields, later) => (object fields, later) := by
  rw [readValue, skipSpace_cons (by decide)]
  simp only [show ¬('{' : Char) = '[' by decide, if_false, if_true]
  cases readFields (readValue depth) rest <;> rfl

/-- A closing bracket does not begin a value. -/
theorem readValue_closing (depth : Nat) (rest : List Char) :
    readValue depth (']' :: rest) = .error .expectedValue := by
  rw [readValue_scalar (by decide) (by decide) (by decide)]
  rfl

/-! ## What stands behind a value -/

theorem endsNumber_cons {c : Char} (h : isDigit c = false ∧ c ≠ '.' ∧ c ≠ 'e' ∧ c ≠ 'E')
    (rest : List Char) : EndsNumber (c :: rest) := by
  rintro d ⟨⟩
  exact h

theorem endsNumber_of_isSpace {c : Char} (h : isSpace c = true) (rest : List Char) :
    EndsNumber (c :: rest) := by
  simp only [isSpace, Bool.or_eq_true, decide_eq_true_eq] at h
  obtain ((rfl | rfl) | rfl) | rfl := h <;> exact endsNumber_cons (by decide) _

theorem EndsNumber.blanks {gap text : List Char} (h : EndsNumber text) (blank : Blanks gap) :
    EndsNumber (gap ++ text) := by
  cases gap with
  | nil => exact h
  | cons c gap => exact endsNumber_of_isSpace (blank c List.mem_cons_self) _

namespace Layout

variable (l : Layout) (depth : Nat)

theorem skipSpace_value (v : Json) (rest : List Char) :
    skipSpace (l.value depth v ++ rest) = l.value depth v ++ rest := by
  cases v with
  | arr items => exact skipSpace_cons (by decide) _
  | obj fields => exact skipSpace_cons (by decide) _
  | _ => exact skipSpace_compact _ rest

theorem value_append_ne_nil (v : Json) (rest : List Char) : l.value depth v ++ rest ≠ [] := by
  cases v with
  | arr items => exact List.cons_ne_nil _ _
  | obj fields => exact List.cons_ne_nil _ _
  | _ => exact List.append_ne_nil_of_left_ne_nil (oneLine_compact _).ne_nil _

theorem endsNumber_moreItems (items : List Json) (rest : List Char) :
    EndsNumber (l.moreItems depth items ++ rest) := by
  cases items with
  | nil =>
      rw [moreItems, List.append_assoc]
      exact (endsNumber_cons (by decide) _).blanks (l.blanks_gap depth)
  | cons v items => exact endsNumber_cons (by decide) _

theorem endsNumber_moreFields (fields : Fields) (rest : List Char) :
    EndsNumber (l.moreFields depth fields ++ rest) := by
  cases fields with
  | nil =>
      rw [moreFields, List.append_assoc]
      exact (endsNumber_cons (by decide) _).blanks (l.blanks_gap depth)
  | cons f fields => exact endsNumber_cons (by decide) _

/-- The rest of a text is fuel enough for the items in it. -/
theorem length_lt_moreItems (items : List Json) :
    items.length < (l.moreItems depth items).length := by
  induction items with
  | nil => simp [moreItems]
  | cons v rest ih => simp [moreItems]; omega

theorem length_lt_moreFields (fields : Fields) :
    fields.length < (l.moreFields depth fields).length := by
  induction fields with
  | nil => simp [moreFields]
  | cons f rest ih => simp [moreFields]; omega

end Layout

/-! ## One step of a list or an object -/

section Steps

variable {levels : Nat} {v : Json} {gap text after : List Char}

/-- A value that is read does not begin with the bracket that closes a list. -/
theorem ne_closing_of_read (h : readValue levels text = .ok (v, after)) (later : List Char) :
    text ≠ ']' :: later := by
  rintro rfl
  rw [readValue_closing] at h
  cases h

theorem readItems_first (blank : Blanks gap) (hskip : skipSpace text = text) (hne : text ≠ [])
    (h : readValue levels text = .ok (v, after)) :
    readItems (readValue levels) (gap ++ text) =
      (readMoreItems (readValue levels) (after.length + 1) after).map
        fun (items, rest) => (v :: items, rest) := by
  rw [readItems, skipSpace_blanks blank, hskip]
  split
  · exact absurd rfl hne
  · exact absurd rfl (ne_closing_of_read h _)
  · rw [h]
    cases hmore : readMoreItems (readValue levels) (after.length + 1) after <;>
      simp [hmore, Except.map]

theorem readMoreItems_comma (blank : Blanks gap) (fuel : Nat) (hskip : skipSpace text = text)
    (hne : text ≠ []) (h : readValue levels text = .ok (v, after)) :
    readMoreItems (readValue levels) (fuel + 1) (',' :: (gap ++ text)) =
      (readMoreItems (readValue levels) fuel after).map
        fun (items, rest) => (v :: items, rest) := by
  rw [readMoreItems, skipSpace_cons (by decide)]
  simp only [skipSpace_blanks blank, hskip]
  split
  · exact absurd rfl hne
  · exact absurd rfl (ne_closing_of_read h _)
  · rw [h]
    cases hmore : readMoreItems (readValue levels) fuel after <;> simp [hmore, Except.map]

theorem readMoreItems_closing (blank : Blanks gap) (fuel : Nat) (rest : List Char) :
    readMoreItems (readValue levels) (fuel + 1) (gap ++ ']' :: rest) = .ok ([], rest) := by
  rw [readMoreItems, skipSpace_blanks blank, skipSpace_cons (by decide)]
  rfl

/-- A key, its colon and its value are read as one field. -/
theorem readField_quotedTail (k : String) (h : readValue levels text = .ok (v, after)) :
    readField (readValue levels) (quotedTail k.toList ++ ':' :: text) = .ok ((k, v), after) := by
  have hcolon : readColon (':' :: text) = .ok text := rfl
  simp only [readField, readString_quotedTail, hcolon, h]

theorem readFields_first (blank : Blanks gap) (k : String)
    (h : readValue levels text = .ok (v, after)) :
    readFields (readValue levels) (gap ++ (quoted k ++ ':' :: text)) =
      (readMoreFields (readValue levels) (after.length + 1) after).map
        fun (fields, rest) => ((k, v) :: fields, rest) := by
  have hkey : firstKey (gap ++ (quoted k ++ ':' :: text)) =
      .ok (.inl (quotedTail k.toList ++ ':' :: text)) := by
    rw [firstKey, skipSpace_blanks blank, quoted, List.cons_append, skipSpace_cons (by decide)]
    rfl
  simp only [readFields, hkey, readField_quotedTail k h]
  cases readMoreFields (readValue levels) (after.length + 1) after <;> rfl

theorem readMoreFields_comma (blank : Blanks gap) (fuel : Nat) (k : String)
    (h : readValue levels text = .ok (v, after)) :
    readMoreFields (readValue levels) (fuel + 1) (',' :: (gap ++ (quoted k ++ ':' :: text))) =
      (readMoreFields (readValue levels) fuel after).map
        fun (fields, rest) => ((k, v) :: fields, rest) := by
  have hkey : nextKey (',' :: (gap ++ (quoted k ++ ':' :: text))) =
      .ok (.inl (quotedTail k.toList ++ ':' :: text)) := by
    rw [nextKey, skipSpace_cons (by decide)]
    simp only [skipSpace_blanks blank, quoted, List.cons_append,
      skipSpace_cons (c := '"') (by decide)]
  simp only [readMoreFields, hkey, readField_quotedTail k h]
  cases readMoreFields (readValue levels) fuel after <;> rfl

theorem readMoreFields_closing (blank : Blanks gap) (fuel : Nat) (rest : List Char) :
    readMoreFields (readValue levels) (fuel + 1) (gap ++ '}' :: rest) = .ok ([], rest) := by
  have hkey : nextKey (gap ++ '}' :: rest) = .ok (.inr rest) := by
    rw [nextKey, skipSpace_blanks blank, skipSpace_cons (by decide)]
    rfl
  simp only [readMoreFields, hkey]

end Steps

/-! ## Values in any layout -/

theorem readScalar_quoted (s : String) (rest : List Char) :
    readScalar '"' (quotedTail s.toList ++ rest) = .ok (.str s, rest) := by
  have hdigit : isDigit '"' = false := by decide
  simp [readScalar, hdigit, readString_quotedTail]

theorem readValue_intText {n : Int} (h : Fits n) (levels : Nat) {rest : List Char}
    (hr : EndsNumber rest) : readValue levels (intText n ++ rest) = .ok (.int n, rest) := by
  obtain ⟨c, text, htext, hc, read⟩ := readScalar_intText h hr
  have hother : ∀ d : Char, d ≠ '-' → isDigit d = false → c ≠ d := by
    rintro d hsign hdigit rfl
    simp [hsign, hdigit] at hc
  have hspace : isSpace c = false := by
    simp [isSpace, hother ' ' (by decide) (by decide), hother '\n' (by decide) (by decide),
      hother '\t' (by decide) (by decide), hother '\r' (by decide) (by decide)]
  rw [htext, readValue_scalar hspace (hother '[' (by decide) (by decide))
    (hother '{' (by decide) (by decide)), read]

namespace Layout

variable (l : Layout)

mutual

/-- A written value is read back with its fields in order, and the text behind it is left. -/
theorem readValue_value : (v : Json) → v.Integral → ∀ {levels depth : Nat} {rest : List Char},
    v.depth ≤ levels → EndsNumber rest →
      readValue levels (l.value depth v ++ rest) = .ok (v.normal, rest)
  | .null, _, levels, _, rest, _, _ => readValue_scalar (by decide) (by decide) (by decide) levels _
  | .bool true, _, levels, _, rest, _, _ =>
      readValue_scalar (by decide) (by decide) (by decide) levels _
  | .bool false, _, levels, _, rest, _, _ =>
      readValue_scalar (by decide) (by decide) (by decide) levels _
  | .int n, h, levels, _, rest, _, hr => readValue_intText h levels hr
  | .float _, h, _, _, _, _, _ => h.elim
  | .str s, _, levels, _, rest, _, _ => by
      rw [value, compact, quoted, List.cons_append,
        readValue_scalar (by decide) (by decide) (by decide), readScalar_quoted]
      rfl
      all_goals nofun
  | .arr items, h, 0, _, rest, hd, _ => absurd hd (Nat.not_succ_le_zero _)
  | .arr items, h, levels + 1, depth, rest, hd, _ => by
      rw [value, List.cons_append, readValue_list,
        readItems_items items h (Nat.le_of_succ_le_succ hd)]
      rfl
  | .obj fields, h, 0, _, rest, hd, _ => absurd hd (Nat.not_succ_le_zero _)
  | .obj fields, h, levels + 1, depth, rest, hd, _ => by
      rw [value, List.cons_append, readValue_object,
        readFields_fields fields h (Nat.le_of_succ_le_succ hd)]
      rfl

theorem readItems_items : (items : List Json) → IntegralItems items →
    ∀ {levels depth : Nat} {rest : List Char}, depthItems items ≤ levels →
      readItems (readValue levels) (l.items depth items ++ rest) = .ok (normalItems items, rest)
  | [], _, _, _, _, _ => rfl
  | v :: more, h, levels, depth, rest, hd => by
      rw [depthItems, Nat.max_le] at hd
      have first : readValue levels (l.value (depth + 1) v ++ (l.moreItems depth more ++ rest)) =
          .ok (v.normal, l.moreItems depth more ++ rest) :=
        readValue_value v h.1 hd.1 (l.endsNumber_moreItems depth more rest)
      have hfuel : more.length < (l.moreItems depth more ++ rest).length + 1 := by
        have := l.length_lt_moreItems depth more
        rw [List.length_append]
        omega
      rw [items, List.append_assoc, List.append_assoc,
        readItems_first (l.blanks_gap _) (l.skipSpace_value _ v _)
          (l.value_append_ne_nil _ v _) first,
        readMoreItems_moreItems more h.2 hd.2 hfuel]
      rfl

theorem readMoreItems_moreItems : (items : List Json) → IntegralItems items →
    ∀ {levels depth fuel : Nat} {rest : List Char}, depthItems items ≤ levels →
      items.length < fuel →
      readMoreItems (readValue levels) fuel (l.moreItems depth items ++ rest) =
        .ok (normalItems items, rest)
  | _, _, _, _, 0, _, _, hf => absurd hf (Nat.not_lt_zero _)
  | [], _, levels, depth, fuel + 1, rest, _, _ => by
      rw [moreItems, List.append_assoc]
      exact readMoreItems_closing (l.blanks_gap depth) fuel rest
  | v :: more, h, levels, depth, fuel + 1, rest, hd, hf => by
      rw [depthItems, Nat.max_le] at hd
      have first : readValue levels (l.value (depth + 1) v ++ (l.moreItems depth more ++ rest)) =
          .ok (v.normal, l.moreItems depth more ++ rest) :=
        readValue_value v h.1 hd.1 (l.endsNumber_moreItems depth more rest)
      rw [moreItems, List.cons_append, List.append_assoc, List.append_assoc,
        readMoreItems_comma (l.blanks_gap _) fuel (l.skipSpace_value _ v _)
          (l.value_append_ne_nil _ v _) first,
        readMoreItems_moreItems more h.2 hd.2 (Nat.lt_of_succ_lt_succ hf)]
      rfl

theorem readFields_fields : (fields : Fields) → IntegralFields fields →
    ∀ {levels depth : Nat} {rest : List Char}, depthFields fields ≤ levels →
      readFields (readValue levels) (l.fields depth fields ++ rest) =
        .ok (normalFields fields, rest)
  | [], _, _, _, _, _ => rfl
  | (k, v) :: more, h, levels, depth, rest, hd => by
      rw [depthFields, Nat.max_le] at hd
      have first : readValue levels (l.value (depth + 1) v ++ (l.moreFields depth more ++ rest)) =
          .ok (v.normal, l.moreFields depth more ++ rest) :=
        readValue_value v h.1 hd.1 (l.endsNumber_moreFields depth more rest)
      rw [← readValue_blanks l.blanks_afterColon] at first
      have hfuel : more.length < (l.moreFields depth more ++ rest).length + 1 := by
        have := l.length_lt_moreFields depth more
        rw [List.length_append]
        omega
      simp only [fields, List.append_assoc, List.cons_append]
      rw [readFields_first (l.blanks_gap _) k first, readMoreFields_moreFields more h.2 hd.2 hfuel]
      rfl

theorem readMoreFields_moreFields : (fields : Fields) → IntegralFields fields →
    ∀ {levels depth fuel : Nat} {rest : List Char}, depthFields fields ≤ levels →
      fields.length < fuel →
      readMoreFields (readValue levels) fuel (l.moreFields depth fields ++ rest) =
        .ok (normalFields fields, rest)
  | _, _, _, _, 0, _, _, hf => absurd hf (Nat.not_lt_zero _)
  | [], _, levels, depth, fuel + 1, rest, _, _ => by
      rw [moreFields, List.append_assoc]
      exact readMoreFields_closing (l.blanks_gap depth) fuel rest
  | (k, v) :: more, h, levels, depth, fuel + 1, rest, hd, hf => by
      rw [depthFields, Nat.max_le] at hd
      have first : readValue levels (l.value (depth + 1) v ++ (l.moreFields depth more ++ rest)) =
          .ok (v.normal, l.moreFields depth more ++ rest) :=
        readValue_value v h.1 hd.1 (l.endsNumber_moreFields depth more rest)
      rw [← readValue_blanks l.blanks_afterColon] at first
      simp only [moreFields, List.append_assoc, List.cons_append]
      rw [readMoreFields_comma (l.blanks_gap _) fuel k first,
        readMoreFields_moreFields more h.2 hd.2 (Nat.lt_of_succ_lt_succ hf)]
      rfl

end

end Layout

/-! ## The two printers -/

/-- A value written without blanks is read back, and the text behind it is left. -/
theorem readValue_compact (v : Json) (h : v.Exact) {depth : Nat} {rest : List Char}
    (hd : v.depth ≤ depth) (hr : EndsNumber rest) :
    readValue depth (compact v ++ rest) = .ok (v, rest) := by
  rw [← Layout.tight_value 0, Layout.readValue_value _ v h.integral hd hr, h.normal_eq]

theorem readFields_compactFields (fields : Fields) (h : ExactFields fields) {depth : Nat}
    {rest : List Char} (hd : depthFields fields ≤ depth) :
    readFields (readValue depth) (compactFields fields ++ rest) = .ok (fields, rest) := by
  rw [← Layout.tight_fields 0, Layout.readFields_fields _ fields h.integral hd, h.normal_eq]

/-- Reading the compact text of an exact value gives the value back, as long as it is
not nested deeper than the reader allows. -/
theorem read_compact {v : Json} (h : v.Exact) (hd : v.depth ≤ maxDepth) :
    read (compact v) = .ok v := by
  have whole : readValue maxDepth (compact v ++ []) = .ok (v, []) :=
    readValue_compact v h hd nofun
  rw [List.append_nil] at whole
  rw [read, whole]
  rfl

/-- A value written over several lines is read back, whatever blanks stand behind it. Its fields
come back in order. -/
theorem atEnd_readValue_pretty {v : Json} (h : v.Integral) {levels : Nat} (hd : v.depth ≤ levels)
    (depth : Nat) {gap : List Char} (blank : Blanks gap) :
    atEnd (readValue levels (pretty depth v ++ gap)) = .ok v.normal := by
  have ends : EndsNumber gap := by
    rw [← List.append_nil gap]
    exact EndsNumber.blanks nofun blank
  have none_left : skipSpace gap = [] := by
    rw [← List.append_nil gap, skipSpace_blanks blank]
    rfl
  rw [← Layout.indented_value, Layout.readValue_value _ v h hd ends, atEnd, none_left]
  rfl

end SyscallProfiler.Json
