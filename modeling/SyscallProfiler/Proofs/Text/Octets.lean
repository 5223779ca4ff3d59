import SyscallProfiler.Text.Utf8

/-!
# Texts in the order of their octets

Names are sorted by their octets, and texts are compared character by character. Both orders
are the same: the octets of a character come before those of any higher character, whatever
follows either of them.
-/

namespace SyscallProfiler.Text.Utf8

/-! ## The octets of a text -/

theorem loop_eq (octets : ByteArray) (i : Nat) (done : List UInt8) :
    ByteArray.toList.loop octets i done = done.reverse ++ octets.data.toList.drop i := by
  fun_induction ByteArray.toList.loop octets i done with
  | case1 i done h ih =>
      have inside : i < octets.data.toList.length := h
      have here : octets.get! i = octets.data.toList[i] := by
        rw [Array.getElem_toList]
        exact getElem!_pos octets.data i h
      rw [ih, List.drop_eq_getElem_cons inside, List.reverse_cons, List.append_assoc, here]
      rfl
  | case2 i done h =>
      have beyond : octets.data.toList.length ≤ i := Nat.le_of_not_lt h
      rw [List.drop_eq_nil_of_le beyond, List.append_nil]

/-- The octets of a text are those of its characters, one after the other. -/
theorem encode_eq_flatMap (s : String) :
    encode s = s.toList.flatMap String.utf8EncodeChar := by
  rw [encode, String.toUTF8_eq_toByteArray, ← String.utf8Encode_toList, List.utf8Encode,
    ByteArray.toList, loop_eq]
  simp

/-! ## Their order -/

theorem toNat_lt_of_char (c : Char) : c.val.toNat < 0x110000 := by
  have valid : c.val.toNat < 0xD800 ∨ 0xDFFF < c.val.toNat ∧ c.val.toNat < 0x110000 := c.valid
  omega

/-- The octets of a lower character come first. If both characters take the same number of
octets, these are their digits to the base 64; otherwise the leading octets decide. -/
theorem utf8EncodeChar_append_lt {c d : Char} (h : c < d) (after after' : List UInt8) :
    String.utf8EncodeChar c ++ after < String.utf8EncodeChar d ++ after' := by
  have lower : c.val.toNat < d.val.toNat := h
  have bound := toNat_lt_of_char d
  -- The octets are compared digit by digit, so that each digit is taken from what the
  -- digits after it leave.
  have second (n : Nat) : n / 4096 = n / 64 / 64 := by omega
  have third (n : Nat) : n / 262144 = n / 64 / 64 / 64 := by omega
  fun_cases String.utf8EncodeChar c <;> fun_cases String.utf8EncodeChar d <;>
    simp only [List.cons_append, List.cons_lt_cons_iff, UInt8.lt_iff_toNat_lt,
      ← UInt8.toNat_inj, UInt8.toNat_ofNat', second, third] <;>
    omega

theorem flatMap_utf8EncodeChar_lt {cs ds : List Char} (h : cs < ds) :
    cs.flatMap String.utf8EncodeChar < ds.flatMap String.utf8EncodeChar := by
  induction h with
  | @nil d ds =>
      rw [List.flatMap_nil, List.flatMap_cons]
      cases octets : String.utf8EncodeChar d ++ ds.flatMap String.utf8EncodeChar with
      | nil => exact absurd (List.append_eq_nil_iff.mp octets).1 String.utf8EncodeChar_ne_nil
      | cons => exact .nil
  | rel lower =>
      rw [List.flatMap_cons, List.flatMap_cons]
      exact utf8EncodeChar_append_lt lower _ _
  | cons _ ih =>
      rw [List.flatMap_cons, List.flatMap_cons]
      exact List.append_left_lt ih

/-- Comparing texts is comparing their octets. -/
theorem encode_lt_iff {s t : String} : encode s < encode t ↔ s < t := by
  have mono {s t : String} (h : s < t) : encode s < encode t := by
    rw [encode_eq_flatMap, encode_eq_flatMap]
    exact flatMap_utf8EncodeChar_lt h
  constructor
  · -- Texts are ordered linearly, and octets do not come before themselves.
    intro before
    rcases Decidable.em (s < t) with lt | notLt
    · exact lt
    rcases Decidable.em (t < s) with gt | notGt
    · exact absurd before (List.lt_asymm (mono gt))
    · obtain rfl := String.le_antisymm notGt notLt
      exact absurd before (List.lt_irrefl _)
  · exact mono

end SyscallProfiler.Text.Utf8
