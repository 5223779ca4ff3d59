import Mathlib.Tactic.SplitIfs
import SyscallProfiler.Proofs.Text.Octets

/-!
# Reading the octets of a text

Octets are read leniently: what is no character becomes a replacement character. Octets that
come from a text hold nothing of that kind, and so reading them gives the text back. A text
without the character zero has no octet zero either, so all of it is read where octets are read
up to the first zero.
-/

namespace SyscallProfiler.Text.Utf8

/-! ## One character -/

theorem isTail_iff {b : UInt8} : isTail b = true ↔ 0x80 ≤ b.toNat ∧ b.toNat ≤ 0xBF := by
  simp [isTail, UInt8.le_iff_toNat_le]

/-- What may follow a leading octet, by the numbers. Only four leading octets leave out some of
the octets that continue a character. -/
theorem mayFollow_iff {lead second : UInt8} :
    mayFollow lead second = true ↔
      0x80 ≤ second.toNat ∧ second.toNat ≤ 0xBF ∧
        (lead.toNat = 0xE0 → 0xA0 ≤ second.toNat) ∧ (lead.toNat = 0xED → second.toNat ≤ 0x9F) ∧
        (lead.toNat = 0xF0 → 0x90 ≤ second.toNat) ∧ (lead.toNat = 0xF4 → second.toNat ≤ 0x8F) := by
  have same (n : UInt8) : (lead == n) = true ↔ lead.toNat = n.toNat := by
    rw [beq_iff_eq, UInt8.toNat_inj]
  simp only [mayFollow, same]
  split_ifs <;>
    simp only [isTail, UInt8.le_iff_toNat_le, Bool.and_eq_true, decide_eq_true_eq,
      UInt8.reduceToNat] at * <;>
    omega

section TakeChar

variable {b c d e : UInt8} (more : List UInt8)

theorem takeChar_one (lead : b.toNat ≤ 0x7F) :
    (takeChar b more).1 = Char.ofNat b.toNat ∧ (takeChar b more).2.val = more := by
  have ascii : b < 0x80 := by
    rw [UInt8.lt_iff_toNat_lt]
    exact Nat.lt_succ_of_le lead
  unfold takeChar
  rw [if_pos ascii]
  exact ⟨rfl, rfl⟩

theorem takeChar_two (low : 0xC2 ≤ b.toNat) (high : b.toNat ≤ 0xDF) (tail : isTail c = true) :
    (takeChar b (c :: more)).1 = assemble (b.toNat - 0xC0) [c] ∧
      (takeChar b (c :: more)).2.val = more := by
  have ascii : ¬b < 0x80 := by
    rw [UInt8.lt_iff_toNat_lt]
    exact Nat.not_lt.mpr (Nat.le_trans (by decide) low)
  have two : (0xC2 ≤ b && b ≤ 0xDF) = true := by
    simpa [UInt8.le_iff_toNat_le] using And.intro low high
  unfold takeChar
  rw [if_neg ascii, if_pos two]
  simp only [tail, if_true, and_self]

theorem takeChar_three (low : 0xE0 ≤ b.toNat) (high : b.toNat ≤ 0xEF)
    (second : mayFollow b c = true) (tail : isTail d = true) :
    (takeChar b (c :: d :: more)).1 = assemble (b.toNat - 0xE0) [c, d] ∧
      (takeChar b (c :: d :: more)).2.val = more := by
  have ascii : ¬b < 0x80 := by
    rw [UInt8.lt_iff_toNat_lt]
    exact Nat.not_lt.mpr (Nat.le_trans (by decide) low)
  have two : ¬(0xC2 ≤ b && b ≤ 0xDF) = true := by
    simp [UInt8.le_iff_toNat_le]
    omega
  have three : (0xE0 ≤ b && b ≤ 0xEF) = true := by
    simpa [UInt8.le_iff_toNat_le] using And.intro low high
  unfold takeChar
  rw [if_neg ascii, if_neg two, if_pos three]
  simp [second, tail]

theorem takeChar_four (low : 0xF0 ≤ b.toNat) (high : b.toNat ≤ 0xF4)
    (second : mayFollow b c = true) (third : isTail d = true) (tail : isTail e = true) :
    (takeChar b (c :: d :: e :: more)).1 = assemble (b.toNat - 0xF0) [c, d, e] ∧
      (takeChar b (c :: d :: e :: more)).2.val = more := by
  have ascii : ¬b < 0x80 := by
    rw [UInt8.lt_iff_toNat_lt]
    exact Nat.not_lt.mpr (Nat.le_trans (by decide) low)
  have two : ¬(0xC2 ≤ b && b ≤ 0xDF) = true := by
    simp [UInt8.le_iff_toNat_le]
    omega
  have three : ¬(0xE0 ≤ b && b ≤ 0xEF) = true := by
    simp [UInt8.le_iff_toNat_le]
    omega
  have four : (0xF0 ≤ b && b ≤ 0xF4) = true := by
    simpa [UInt8.le_iff_toNat_le] using And.intro low high
  unfold takeChar
  rw [if_neg ascii, if_neg two, if_neg three, if_pos four]
  simp [second, third, tail]

end TakeChar

theorem ofNat_eq {c : Char} {n : Nat} (h : n = c.val.toNat) : Char.ofNat n = c := by
  rw [h]
  exact Char.ofNat_toNat c

theorem toNat_ofNat {n : Nat} (h : n < 256) : (UInt8.ofNat n).toNat = n :=
  UInt8.toNat_ofNat_of_lt' h

/-- A digit to the base 64 is written as an octet that continues a character. -/
theorem isTail_ofNat (n : Nat) : isTail (UInt8.ofNat (n % 64 + 128)) = true := by
  rw [isTail_iff, toNat_ofNat (by omega)]
  omega

/-- The octets of a character are read as that character, whatever follows them. -/
theorem takeChar_utf8EncodeChar (c : Char) (more : List UInt8) :
    ∃ b rest, String.utf8EncodeChar c ++ more = b :: rest ∧
      (takeChar b rest).1 = c ∧ (takeChar b rest).2.val = more := by
  have valid : c.val.toNat < 0xD800 ∨ 0xDFFF < c.val.toNat ∧ c.val.toNat < 0x110000 := c.valid
  have digit (n : Nat) : (UInt8.ofNat (n % 64 + 128)).toNat = n % 64 + 128 :=
    toNat_ofNat (by omega)
  -- The bits of the octets are the digits of the character's number to the base 64.
  fun_cases String.utf8EncodeChar c with
  | case1 v one =>
      have lead : (UInt8.ofNat v).toNat = v := toNat_ofNat (by omega)
      obtain ⟨first, rest⟩ := takeChar_one (b := UInt8.ofNat v) more (by omega)
      refine ⟨_, more, rfl, first.trans (ofNat_eq lead), rest⟩
  | case2 v one two =>
      have lead : (UInt8.ofNat (v / 64 % 32 + 192)).toNat = v / 64 + 192 := by
        rw [toNat_ofNat (by omega)]
        omega
      obtain ⟨first, rest⟩ := takeChar_two (b := UInt8.ofNat (v / 64 % 32 + 192)) more
        (by omega) (by omega) (isTail_ofNat v)
      refine ⟨_, _, rfl, first.trans (ofNat_eq ?_), rest⟩
      simp only [List.foldl_cons, List.foldl_nil, lead, digit]
      omega
  | case3 v one two three =>
      have lead : (UInt8.ofNat (v / 4096 % 16 + 224)).toNat = v / 4096 + 224 := by
        rw [toNat_ofNat (by omega)]
        omega
      have second : mayFollow (UInt8.ofNat (v / 4096 % 16 + 224))
          (UInt8.ofNat (v / 64 % 64 + 128)) = true := by
        rw [mayFollow_iff, lead, digit]
        omega
      obtain ⟨first, rest⟩ := takeChar_three (b := UInt8.ofNat (v / 4096 % 16 + 224)) more
        (by omega) (by omega) second (isTail_ofNat v)
      refine ⟨_, _, rfl, first.trans (ofNat_eq ?_), rest⟩
      simp only [List.foldl_cons, List.foldl_nil, lead, digit]
      omega
  | case4 v one two three =>
      have lead : (UInt8.ofNat (v / 262144 % 8 + 240)).toNat = v / 262144 + 240 := by
        rw [toNat_ofNat (by omega)]
        omega
      have second : mayFollow (UInt8.ofNat (v / 262144 % 8 + 240))
          (UInt8.ofNat (v / 4096 % 64 + 128)) = true := by
        rw [mayFollow_iff, lead, digit]
        omega
      obtain ⟨first, rest⟩ := takeChar_four (b := UInt8.ofNat (v / 262144 % 8 + 240)) more
        (by omega) (by omega) second (isTail_ofNat (v / 64)) (isTail_ofNat v)
      refine ⟨_, _, rfl, first.trans (ofNat_eq ?_), rest⟩
      simp only [List.foldl_cons, List.foldl_nil, lead, digit]
      omega

/-! ## Whole texts -/

theorem decodeAfter_flatMap (cs : List Char) (done : List Char) :
    decodeAfter done (cs.flatMap String.utf8EncodeChar) = done.reverse ++ cs := by
  induction cs generalizing done with
  | nil => rw [List.flatMap_nil, decodeAfter, List.append_nil]
  | cons c cs ih =>
      obtain ⟨b, rest, octets, first, later⟩ :=
        takeChar_utf8EncodeChar c (cs.flatMap String.utf8EncodeChar)
      rw [List.flatMap_cons, octets, decodeAfter]
      simp only [first, later]
      rw [ih, List.reverse_cons, List.append_assoc, List.singleton_append]

/-- Reading the octets of a text gives the text back. -/
theorem decode_encode (s : String) : decode (encode s) = s := by
  rw [decode, encode_eq_flatMap, decodeAfter_flatMap, List.reverse_nil, List.nil_append,
    String.ofList_toList]

/-- A character other than zero has no octet zero: the octets after the first one are too large. -/
theorem zero_notMem_utf8EncodeChar {c : Char} (h : c.toNat ≠ 0) :
    0 ∉ String.utf8EncodeChar c := by
  have nonzero : c.val.toNat ≠ 0 := h
  fun_cases String.utf8EncodeChar c <;> intro zero <;>
    simp only [List.mem_cons, List.not_mem_nil, or_false, ← UInt8.toNat_inj, UInt8.toNat_ofNat',
      UInt8.toNat_zero] at zero <;>
    omega

theorem zero_notMem_encode {s : String} (h : ∀ c ∈ s.toList, c.toNat ≠ 0) : 0 ∉ encode s := by
  intro zero
  rw [encode_eq_flatMap, List.mem_flatMap] at zero
  obtain ⟨c, hc, zero⟩ := zero
  exact zero_notMem_utf8EncodeChar (h c hc) zero

end SyscallProfiler.Text.Utf8
