import Mathlib.Tactic.SplitIfs
import SyscallProfiler.Json.Printer
import SyscallProfiler.Json.Reader
import SyscallProfiler.Proofs.Json.Exact

/-!
# Reading written numbers and strings

A reader that meets a written scalar takes exactly its characters and gives back the
scalar. For a number this needs a text behind it that does not go on with the number;
a string brings its own end with it, and every character that its text escapes is
restored.
-/

namespace SyscallProfiler

namespace Decimal

/-- Digits and the characters for them are inverse to each other. -/
theorem digitValue_ofNat {d : Nat} (h : d < 10) : Json.digitValue (Char.ofNat (48 + d)) = d := by
  have all : ∀ d < 10, Json.digitValue (Char.ofNat (48 + d)) = d := by decide
  exact all d h

theorem isDigit_ofNat {d : Nat} (h : d < 10) : Json.isDigit (Char.ofNat (48 + d)) = true := by
  have all : ∀ d < 10, Json.isDigit (Char.ofNat (48 + d)) = true := by decide
  exact all d h

theorem digits_ne_nil (n : Nat) : digits n ≠ [] := by
  rw [digits]
  split <;> simp

theorem isDigit_of_mem_digits (n : Nat) : ∀ c ∈ digits n, Json.isDigit c = true := by
  induction n using digits.induct with
  | case1 n h =>
      rw [digits, if_pos h]
      simpa using isDigit_ofNat h
  | case2 n h ih =>
      rw [digits, if_neg h]
      intro c hc
      rcases List.mem_append.mp hc with hc | hc
      · exact ih c hc
      · rw [List.mem_singleton.mp hc]
        exact isDigit_ofNat (Nat.mod_lt n (by decide))

/-- Only zero is written with a zero in front. -/
theorem digits_eq_zero_cons {n : Nat} {rest : List Char} (h : digits n = '0' :: rest) :
    n = 0 := by
  induction n using digits.induct generalizing rest with
  | case1 n hn =>
      have all : ∀ d < 10, Char.ofNat (48 + d) = '0' → d = 0 := by decide
      rw [digits, if_pos hn, List.cons.injEq] at h
      exact all n hn h.1
  | case2 n hn ih =>
      rw [digits, if_neg hn] at h
      obtain ⟨c, front, hf⟩ := List.exists_cons_of_ne_nil (digits_ne_nil (n / 10))
      rw [hf, List.cons_append, List.cons.injEq] at h
      have hzero : digits (n / 10) = '0' :: front := by rw [hf, h.1]
      have := ih hzero
      omega

end Decimal

namespace Json

/-! ## Numbers -/

theorem ofDigits_digits (n : Nat) : ofDigits (Decimal.digits n) = n := by
  induction n using Decimal.digits.induct with
  | case1 n h =>
      rw [Decimal.digits, if_pos h]
      simpa [ofDigits] using Decimal.digitValue_ofNat h
  | case2 n h ih =>
      rw [Decimal.digits, if_neg h]
      rw [ofDigits] at ih ⊢
      rw [List.foldl_append, ih, List.foldl_cons, List.foldl_nil,
        Decimal.digitValue_ofNat (Nat.mod_lt n (by decide))]
      omega

/-- What may stand behind a number without being taken for a part of it. -/
def EndsNumber (text : List Char) : Prop :=
  ∀ c ∈ text.head?, isDigit c = false ∧ c ≠ '.' ∧ c ≠ 'e' ∧ c ≠ 'E'

theorem spanDigits_append {ds rest : List Char} (hd : ∀ c ∈ ds, isDigit c = true)
    (hr : EndsNumber rest) : spanDigits (ds ++ rest) = (ds, rest) := by
  induction ds with
  | nil =>
      cases rest with
      | nil => rfl
      | cons c rest => simp [spanDigits, (hr c rfl).1]
  | cons c ds ih =>
      have hc := hd c List.mem_cons_self
      have hds := ih fun d hm => hd d (List.mem_cons_of_mem c hm)
      simp [spanDigits, hc, hds]

theorem readDigits_append {early : SyntaxError} {ds rest : List Char} (hne : ds ≠ [])
    (hd : ∀ c ∈ ds, isDigit c = true) (hr : EndsNumber rest) :
    readDigits early (ds ++ rest) = .ok (ds, rest) := by
  obtain ⟨c, ds, rfl⟩ := List.exists_cons_of_ne_nil hne
  rw [readDigits, spanDigits_append hd hr]

/-- All digits of a number are read before a point is looked for. A zero in front would
be an error if digits followed it, but only zero itself has one. -/
theorem readWhole_digits {early : SyntaxError} (n : Nat) {rest : List Char}
    (hr : EndsNumber rest) :
    readWhole early (Decimal.digits n ++ rest) = .ok (Decimal.digits n, rest) := by
  have read : readDigits early (Decimal.digits n ++ rest) = .ok (Decimal.digits n, rest) :=
    readDigits_append (Decimal.digits_ne_nil n) (Decimal.isDigit_of_mem_digits n) hr
  obtain ⟨c, ds, hds⟩ := List.exists_cons_of_ne_nil (Decimal.digits_ne_nil n)
  rw [hds, List.cons_append] at read ⊢
  by_cases hc : c = '0'
  · subst hc
    have hzero := Decimal.digits_eq_zero_cons hds
    obtain rfl : ds = [] := by
      rw [hzero, Decimal.digits] at hds
      simpa using hds.symm
    cases rest with
    | nil => exact read
    | cons d rest => simp [readWhole, (hr d rfl).1]
  · rw [readWhole]
    · exact read
    · intro d later e
      exact absurd e hc

theorem readFraction_of_endsNumber {early : SyntaxError} {rest : List Char}
    (hr : EndsNumber rest) : readFraction early rest = .ok (none, rest) := by
  rw [readFraction]
  rintro later rfl
  exact absurd rfl (hr '.' rfl).2.1

theorem readExponent_of_endsNumber {early : SyntaxError} {rest : List Char}
    (hr : EndsNumber rest) : readExponent early rest = .ok (none, rest) := by
  cases rest with
  | nil => rfl
  | cons c rest => simp [readExponent, (hr c rfl).2.2.1, (hr c rfl).2.2.2]

theorem readNumberText_digits {early : SyntaxError} (negative : Bool) (n : Nat)
    {rest : List Char} (hr : EndsNumber rest) :
    readNumberText early negative (Decimal.digits n ++ rest) =
      .ok (⟨negative, Decimal.digits n, none, none⟩, rest) := by
  simp only [readNumberText, readWhole_digits n hr, readFraction_of_endsNumber hr,
    readExponent_of_endsNumber hr]

/-- A natural number that fits 64 bits is read as it was written. -/
theorem readNumber_digits {n : Nat} (h : n ≤ maxUnsigned) {rest : List Char}
    (hr : EndsNumber rest) :
    readNumber false (Decimal.digits n ++ rest) = .ok (.int n, rest) := by
  simp [readNumber, readNumberText_digits false n hr, NumberText.value?, ofDigits_digits, h]

/-- A number below zero that fits 64 bits is read as it was written. -/
theorem readNumber_digits_neg {n : Nat} (hpos : 0 < n) (h : n ≤ signedBound) {rest : List Char}
    (hr : EndsNumber rest) :
    readNumber true (Decimal.digits n ++ rest) = .ok (.int (-n), rest) := by
  simp [readNumber, readNumberText_digits true n hr, NumberText.value?, ofDigits_digits, h, hpos]

theorem readScalar_of_isDigit {c : Char} (h : isDigit c = true) (rest : List Char) :
    readScalar c rest = readNumber false (c :: rest) := by
  have other : ∀ d : Char, isDigit d = false → c ≠ d := by
    rintro d hd rfl
    simp [h] at hd
  rw [readScalar, if_neg (other 'n' (by decide)), if_neg (other 't' (by decide)),
    if_neg (other 'f' (by decide)), if_neg (other '-' (by decide)), if_pos h]

/-- An integer that fits 64 bits is read as it was written. -/
theorem readScalar_intText {n : Int} (h : Fits n) {rest : List Char} (hr : EndsNumber rest) :
    ∃ c text, intText n ++ rest = c :: text ∧ (c = '-' ∨ isDigit c = true) ∧
      readScalar c text = .ok (.int n, rest) := by
  obtain ⟨low, high⟩ := h
  by_cases hn : n < 0
  · refine ⟨'-', Decimal.digits n.natAbs ++ rest, by rw [intText, if_pos hn]; rfl, .inl rfl, ?_⟩
    have read := readNumber_digits_neg (n := n.natAbs) (by omega) (by omega) hr
    have hneg : -(n.natAbs : Int) = n := by omega
    rw [hneg] at read
    simpa [readScalar] using read
  · obtain ⟨c, ds, hds⟩ := List.exists_cons_of_ne_nil (Decimal.digits_ne_nil n.natAbs)
    have hc := Decimal.isDigit_of_mem_digits n.natAbs c (by simp [hds])
    refine ⟨c, ds ++ rest, by rw [intText, if_neg hn, hds]; rfl, .inr hc, ?_⟩
    have read := readNumber_digits (n := n.natAbs) (by omega) hr
    have hpos : (n.natAbs : Int) = n := by omega
    rw [hpos, hds, List.cons_append] at read
    rw [readScalar_of_isDigit hc, read]

/-! ## Strings -/

theorem hexQuad?_controlCode {n : Nat} (h : n < 32) :
    hexQuad? '0' '0' (hexDigit (n / 16)) (hexDigit (n % 16)) = some n := by
  have all : ∀ n < 32, hexQuad? '0' '0' (hexDigit (n / 16)) (hexDigit (n % 16)) = some n := by
    decide
  exact all n h

/-- Puts a character in front of what was read. -/
def withFirst (c : Char) (read : Reading (List Char)) : Reading (List Char) :=
  read.map fun (cs, rest) => (c :: cs, rest)

theorem readChars_plain {c : Char} (hq : c ≠ '"') (hb : c ≠ '\\') (hl : ¬c.toNat < 32)
    (rest : List Char) : readChars (c :: rest) = withFirst c (readChars rest) := by
  rw [readChars, if_neg hq, if_neg hb, if_neg hl]
  cases readChars rest <;> rfl

theorem readChars_backslash {c d : Char} (h : simpleEscape? d = some c) (rest : List Char) :
    readChars ('\\' :: d :: rest) = withFirst c (readChars rest) := by
  rw [readChars]
  simp only [readEscape, h]
  cases readChars rest <;> rfl

/-- Four digits, two zeros among them, stand for a control character. -/
theorem readUnicode_controlCode {c : Char} (h : c.toNat < 32) (rest : List Char) :
    ∃ hr, readUnicode ('0' :: '0' :: hexDigit (c.toNat / 16) :: hexDigit (c.toNat % 16) :: rest) =
      .ok (c, ⟨rest, hr⟩) := by
  have hlow : isLowSurrogate c.toNat ≠ true := by simp [isLowSurrogate]; omega
  have hhigh : (!isHighSurrogate c.toNat) = true := by simp [isHighSurrogate]; omega
  refine ⟨by simp only [List.length_cons]; omega, ?_⟩
  rw [readUnicode, readHexQuad, hexQuad?_controlCode h]
  dsimp only
  rw [if_neg hlow, if_pos hhigh, Char.ofNat_toNat]

theorem readChars_controlCode {c : Char} (h : c.toNat < 32) (rest : List Char) :
    readChars ('\\' :: 'u' :: '0' :: '0' :: hexDigit (c.toNat / 16) :: hexDigit (c.toNat % 16) ::
      rest) = withFirst c (readChars rest) := by
  have hu : simpleEscape? 'u' = none := by decide
  obtain ⟨hr, unicode⟩ := readUnicode_controlCode h rest
  rw [readChars, if_neg (by decide), if_pos rfl]
  simp only [readEscape, hu, if_true, unicode]
  cases readChars rest <;> rfl

/-- Whatever a character is written as, reading it gives the character back. -/
theorem readChars_escape (c : Char) (rest : List Char) :
    readChars (escape c ++ rest) = withFirst c (readChars rest) := by
  have code : ∀ n, c.toNat = n → some (Char.ofNat n) = some c := by
    rintro n rfl
    rw [Char.ofNat_toNat]
  rw [escape]
  split_ifs with quote backslash feed return_ tab bell page control
  · exact readChars_backslash (d := '"') (by rw [quote]; decide) rest
  · exact readChars_backslash (d := '\\') (by rw [backslash]; decide) rest
  · exact readChars_backslash (d := 'n') (by rw [feed]; decide) rest
  · exact readChars_backslash (d := 'r') (by rw [return_]; decide) rest
  · exact readChars_backslash (d := 't') (by rw [tab]; decide) rest
  · exact readChars_backslash (d := 'b') (code 8 bell) rest
  · exact readChars_backslash (d := 'f') (code 12 page) rest
  · exact readChars_controlCode control rest
  · exact readChars_plain quote backslash control rest

theorem readChars_quotedTail (cs rest : List Char) :
    readChars (quotedTail cs ++ rest) = .ok (cs, rest) := by
  induction cs with
  | nil => simp [quotedTail, readChars]
  | cons c cs ih =>
      rw [quotedTail, List.append_assoc, readChars_escape, ih]
      rfl

theorem readString_quotedTail (s : String) (rest : List Char) :
    readString (quotedTail s.toList ++ rest) = .ok (s, rest) := by
  rw [readString, readChars_quotedTail]
  simp

end Json

end SyscallProfiler
