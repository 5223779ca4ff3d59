import SyscallProfiler.Invocation.Script
import SyscallProfiler.Proofs.Json.RoundTrip

/-!
# Scripts that are read back

The reader of scripts goes through their fields by itself and leaves only the values to
the reader of JSON. A script and its input are two levels of nesting, so an input may be
nested as deep as one level less than the reader allows.
-/

namespace SyscallProfiler.Script

open Json

/-- The compact text of a script, field by field. -/
theorem toList_text (s : Script) :
    s.text.toList = '{' :: '"' :: (quotedTail "code_path".toList ++
      ':' :: (quoted s.codePath ++ ',' :: '"' :: (quotedTail "input".toList ++
        ':' :: (compact s.input.toJson ++ ['}'])))) := by
  simp [text, Json.text, toJson, compact, compactFields, quoted]

theorem readCodePath_quoted (codePath : String) (rest : List Char) :
    readCodePath (quoted codePath ++ rest) = .ok (codePath, rest) := by
  rw [quoted, List.cons_append, readCodePath, skipSpace_cons (by decide)]
  simp only [readString_quotedTail]

/-- Two levels are left to the script and to the braces of the input. -/
theorem readInput_compact {input : Payload} (h : input.toJson.Exact)
    (hd : input.toJson.depth < maxDepth) (rest : List Char) :
    readInput (compact input.toJson ++ rest) = .ok (input, rest) := by
  have hfields : depthFields input.fields ≤ maxDepth - 2 := by
    rw [Payload.toJson, depth] at hd
    omega
  rw [Payload.toJson, compact, List.cons_append, readInput, skipSpace_cons (by decide)]
  simp only [readFields_compactFields input.fields h.2 hfields]
  congr 2
  exact Payload.ext (sortFields_of_ascending h.1)

theorem readColon_cons (rest : List Char) : readColon (':' :: rest) = .ok rest := by
  rw [readColon, Json.readColon, skipSpace_cons (by decide)]
  rfl

theorem readField_codePath (codePath : String) (rest : List Char) :
    readField .empty "code_path" (':' :: (quoted codePath ++ rest)) =
      .ok (⟨some codePath, none⟩, rest) := by
  rw [readField, if_pos rfl, if_neg (by decide), readColon_cons]
  simp only [readCodePath_quoted]
  rfl

theorem readField_input {input : Payload} (h : input.toJson.Exact)
    (hd : input.toJson.depth < maxDepth) (codePath : String) (rest : List Char) :
    readField ⟨some codePath, none⟩ "input" (':' :: (compact input.toJson ++ rest)) =
      .ok (⟨some codePath, some input⟩, rest) := by
  rw [readField, if_neg (by decide), if_pos rfl, if_neg nofun, readColon_cons]
  simp only [readInput_compact h hd]

theorem nextKey_comma (rest : List Char) : nextKey (',' :: '"' :: rest) = .ok (.inl rest) := by
  rw [nextKey, skipSpace_cons (by decide)]
  simp only [skipSpace_cons (c := '"') (by decide)]

theorem nextKey_brace (rest : List Char) : nextKey ('}' :: rest) = .ok (.inr rest) := by
  rw [nextKey, skipSpace_cons (by decide)]
  rfl

/-- Both fields are read, and then the braces are closed. -/
theorem readFieldsFrom_fields {s : Script} (h : s.input.toJson.Exact)
    (hd : s.input.toJson.depth < maxDepth) (fuel : Nat) :
    readFieldsFrom (fuel + 2) .empty (.inl (quotedTail "code_path".toList ++
        ':' :: (quoted s.codePath ++ ',' :: '"' :: (quotedTail "input".toList ++
          ':' :: (compact s.input.toJson ++ ['}']))))) =
      .ok (⟨some s.codePath, some s.input⟩, []) := by
  rw [readFieldsFrom]
  simp only [readString_quotedTail, readField_codePath, nextKey_comma]
  rw [readFieldsFrom]
  simp only [readString_quotedTail, readField_input h hd, nextKey_brace]
  rw [readFieldsFrom]

/-- Reading the text of a script gives the script back, as long as its input is held
exactly and not nested too deep. -/
theorem read_text {s : Script} (h : s.input.toJson.Exact)
    (hd : s.input.toJson.depth < maxDepth) : read s.text.toList = .ok s := by
  have hfields := readFieldsFrom_fields h hd
  rw [toList_text, read, readFront, skipSpace_cons (by decide)]
  simp only [readObject, firstKey, skipSpace_cons (c := '"') (by decide), List.length_cons,
    hfields, Draft.finish]
  rfl

end SyscallProfiler.Script
