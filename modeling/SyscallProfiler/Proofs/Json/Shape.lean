import SyscallProfiler.Proofs.Json.Scalars
import SyscallProfiler.Proofs.Text.Lines

/-!
# The outline of written values

Every written value, whatever it holds, is one line: no control character stands in it,
and it begins and ends with a character that can be seen. This is what lets a value
share a stream with other lines. The facts hold for all values, also for those that
are not read back as they were.
-/

namespace SyscallProfiler.Json

/-- A printable character of ASCII other than the blank. -/
def isVisible (c : Char) : Bool := 32 < c.toNat && c.toNat < 127

/-- A text of visible characters only. -/
def Visible (text : List Char) : Prop := ∀ c ∈ text, isVisible c = true

instance (text : List Char) : Decidable (Visible text) := List.decidableBAll _ text

/-- A text without control characters. -/
def Printable (text : List Char) : Prop := ∀ c ∈ text, 32 ≤ c.toNat

instance (text : List Char) : Decidable (Printable text) := List.decidableBAll _ text

/-- A text that stands on one line and is not changed by trimming it. -/
structure OneLine (text : List Char) : Prop where
  ne_nil : text ≠ []
  tight : Text.Tight text
  /-- There are no control characters, line feeds least of all. -/
  printable : Printable text

theorem isBlank_of_isVisible {c : Char} (h : isVisible c = true) : Text.isBlank c = false := by
  simp only [isVisible, Bool.and_eq_true, decide_eq_true_eq] at h
  simp [Text.isBlank]
  omega

theorem Visible.printable {text : List Char} (h : Visible text) : Printable text := by
  intro c hc
  have hv := h c hc
  simp only [isVisible, Bool.and_eq_true, decide_eq_true_eq] at hv
  omega

theorem isVisible_of_isDigit {c : Char} (h : isDigit c = true) : isVisible c = true := by
  simp only [isDigit, Bool.and_eq_true, decide_eq_true_eq, Char.le_def, UInt32.le_iff_toNat_le] at h
  simp only [isVisible, Bool.and_eq_true, decide_eq_true_eq]
  have : c.toNat = c.val.toNat := rfl
  have : ('0' : Char).val.toNat = 48 := rfl
  have : ('9' : Char).val.toNat = 57 := rfl
  omega

namespace Printable

@[simp] theorem cons_iff {c : Char} {text : List Char} :
    Printable (c :: text) ↔ 32 ≤ c.toNat ∧ Printable text := List.forall_mem_cons

@[simp] theorem append_iff {text more : List Char} :
    Printable (text ++ more) ↔ Printable text ∧ Printable more := List.forall_mem_append

end Printable

namespace OneLine

theorem of_isVisible {text : List Char} (hne : text ≠ [])
    (h : Visible text) : OneLine text where
  ne_nil := hne
  tight :=
    ⟨fun c hc => isBlank_of_isVisible (h c (List.mem_of_mem_head? hc)),
      fun c hc => isBlank_of_isVisible (h c (List.mem_of_mem_getLast? hc))⟩
  printable := h.printable

/-- Between two characters that can be seen, blanks do no harm. -/
theorem enclosed {first last : Char} {inside : List Char} (hf : isVisible first = true)
    (hl : isVisible last = true) (h : Printable inside) :
    OneLine (first :: (inside ++ [last])) where
  ne_nil := List.cons_ne_nil _ _
  tight := by
    refine ⟨?_, ?_⟩
    · simpa using isBlank_of_isVisible hf
    · simpa [List.getLast?_cons, List.getLast?_append] using isBlank_of_isVisible hl
  printable := by
    have ends : Visible [first, last] := by simp [Visible, hf, hl]
    have hends := ends.printable
    rw [Printable.cons_iff] at hends
    rw [Printable.cons_iff, Printable.append_iff]
    exact ⟨hends.1, h, hends.2⟩

theorem feed_notMem {text : List Char} (h : OneLine text) : '\n' ∉ text := by
  intro hm
  exact absurd (h.printable '\n' hm) (by decide)

theorem trim_eq {text : List Char} (h : OneLine text) : Text.trim text = text :=
  Text.trim_eq_self_iff.mpr h.tight

theorem allBlank_eq_false {text : List Char} (h : OneLine text) : Text.allBlank text = false := by
  obtain ⟨c, rest, rfl⟩ := List.exists_cons_of_ne_nil h.ne_nil
  simp [Text.allBlank, h.tight.1 c rfl]

end OneLine

/-! ## Numbers -/

namespace Visible

@[simp] theorem nil : Visible [] := List.forall_mem_nil _

@[simp] theorem cons_iff {c : Char} {text : List Char} :
    Visible (c :: text) ↔ isVisible c = true ∧ Visible text := List.forall_mem_cons

@[simp] theorem append_iff {text more : List Char} :
    Visible (text ++ more) ↔ Visible text ∧ Visible more := List.forall_mem_append

theorem sublist {text part : List Char} (h : Visible text) (hp : part.Sublist text) :
    Visible part := fun c hc => h c (hp.subset hc)

theorem replicate {c : Char} (h : isVisible c = true) (n : Nat) :
    Visible (List.replicate n c) := by
  intro d hd
  rwa [List.eq_of_mem_replicate hd]

theorem digits (n : Nat) : Visible (Decimal.digits n) :=
  fun c hc => isVisible_of_isDigit (Decimal.isDigit_of_mem_digits n c hc)

theorem intText (n : Int) : Visible (intText n) := by
  rw [Json.intText]
  split
  · exact cons_iff.mpr ⟨by decide, digits _⟩
  · exact digits _

theorem exponentText (e : Int) : Visible (exponentText e) := by
  rw [Json.exponentText]
  split
  · exact cons_iff.mpr ⟨by decide, digits _⟩
  · exact cons_iff.mpr ⟨by decide, digits _⟩

theorem decimalText (layout : FloatLayout) (n : Nat) (p : Int) :
    Visible (decimalText layout n p) := by
  have hdigits := digits n
  have hzeros : ∀ k, Visible (List.replicate k '0') := replicate (by decide)
  have hpoint : isVisible '.' = true := by decide
  have hzero : isVisible '0' = true := by decide
  have he : isVisible 'e' = true := by decide
  have hfront := fun k => hdigits.sublist (List.take_sublist k _)
  have hback := fun k => hdigits.sublist (List.drop_sublist k _)
  simp only [Json.decimalText]
  split_ifs
  · simp [hdigits, hzeros, hpoint, hzero]
  · simp [hfront, hback, hpoint]
  · simp [hdigits, hzeros, hpoint, hzero]
  · split
    · rename_i d h
      rw [h, cons_iff] at hdigits
      simp [hdigits.1, he, exponentText]
    · rename_i d more _ h
      rw [h, cons_iff] at hdigits
      simp [hdigits.1, hdigits.2, hpoint, he, exponentText]
    · exact nil

end Visible

theorem intText_ne_nil (n : Int) : intText n ≠ [] := by
  rw [intText]
  split
  · exact List.cons_ne_nil _ _
  · exact Decimal.digits_ne_nil _

theorem decimalText_ne_nil (layout : FloatLayout) (n : Nat) (p : Int) :
    decimalText layout n p ≠ [] := by
  have hne := Decimal.digits_ne_nil n
  simp only [decimalText]
  split_ifs
  · simp
  · simp
  · simp
  · split
    · simp
    · simp
    · exact absurd ‹_› hne

theorem oneLine_floatText (x : Binary64) : OneLine (floatText x) := by
  have null : OneLine ['n', 'u', 'l', 'l'] :=
    .of_isVisible (List.cons_ne_nil _ _) (by decide)
  cases x with
  | infinite negative => exact null
  | nan => exact null
  | finite negative m e =>
      have signed : ∀ text : List Char, text ≠ [] → Visible text →
          OneLine (if negative then '-' :: text else text) := by
        intro text hne hv
        split
        · exact .of_isVisible (List.cons_ne_nil _ _) (Visible.cons_iff.mpr ⟨by decide, hv⟩)
        · exact .of_isVisible hne hv
      simp only [floatText]
      refine signed _ ?_ ?_
      · split
        · exact List.cons_ne_nil _ _
        · exact decimalText_ne_nil _ _ _
      · split
        · decide
        · exact .decimalText _ _ _

/-! ## Strings -/

theorem isVisible_hexDigit {n : Nat} (h : n < 16) : isVisible (hexDigit n) = true := by
  have all : ∀ n < 16, isVisible (hexDigit n) = true := by decide
  exact all n h

/-- A control character is written with others that are none. -/
theorem printable_escape (c : Char) : Printable (escape c) := by
  rw [escape]
  split_ifs with _ _ _ _ _ _ _ control
  · decide
  · decide
  · decide
  · decide
  · decide
  · decide
  · decide
  · have high := isVisible_hexDigit (n := c.toNat / 16) (by omega)
    have low := isVisible_hexDigit (n := c.toNat % 16) (by omega)
    apply Visible.printable
    simp only [Visible.cons_iff, high, low, Visible.nil]
    decide
  · simpa [Printable] using control

theorem quotedTail_eq (cs : List Char) :
    ∃ inside, quotedTail cs = inside ++ ['"'] ∧ Printable inside := by
  induction cs with
  | nil => exact ⟨[], rfl, by decide⟩
  | cons c cs ih =>
      obtain ⟨inside, h, hi⟩ := ih
      refine ⟨escape c ++ inside, by rw [quotedTail, h, List.append_assoc], ?_⟩
      exact Printable.append_iff.mpr ⟨printable_escape c, hi⟩

theorem oneLine_quoted (s : String) : OneLine (quoted s) := by
  obtain ⟨inside, h, hi⟩ := quotedTail_eq s.toList
  rw [quoted, h]
  exact .enclosed (by decide) (by decide) hi

/-! ## Values -/

mutual

theorem printable_compact : (v : Json) → Printable (compact v)
  | .null => by decide
  | .bool true => by decide
  | .bool false => by decide
  | .int n => (Visible.intText n).printable
  | .float x => (oneLine_floatText x).printable
  | .str s => (oneLine_quoted s).printable
  | .arr items => by
      rw [compact, Printable.cons_iff]
      exact ⟨by decide, printable_compactItems items⟩
  | .obj fields => by
      rw [compact, Printable.cons_iff]
      exact ⟨by decide, printable_compactFields fields⟩

theorem printable_compactItems : (items : List Json) → Printable (compactItems items)
  | [] => by decide
  | [v] => by
      rw [compactItems, Printable.append_iff]
      exact ⟨printable_compact v, by decide⟩
  | v :: w :: rest => by
      rw [compactItems, Printable.append_iff, Printable.cons_iff]
      exact ⟨printable_compact v, by decide, printable_compactItems (w :: rest)⟩

theorem printable_compactFields : (fields : Fields) → Printable (compactFields fields)
  | [] => by decide
  | [(k, v)] => by
      simp only [compactFields, Printable.append_iff, Printable.cons_iff]
      exact ⟨⟨(oneLine_quoted k).printable, by decide, printable_compact v⟩, by decide, nofun⟩
  | (k, v) :: f :: rest => by
      simp only [compactFields, Printable.append_iff, Printable.cons_iff]
      exact ⟨⟨(oneLine_quoted k).printable, by decide, printable_compact v⟩, by decide,
        printable_compactFields (f :: rest)⟩

end

/-- A written list ends with its closing bracket. -/
theorem compactItems_eq (items : List Json) : ∃ inside, compactItems items = inside ++ [']'] := by
  induction items with
  | nil => exact ⟨[], rfl⟩
  | cons v rest ih =>
      cases rest with
      | nil => exact ⟨compact v, rfl⟩
      | cons w rest =>
          obtain ⟨inside, h⟩ := ih
          exact ⟨compact v ++ ',' :: inside, by simp [compactItems, h]⟩

/-- A written object ends with its closing brace. -/
theorem compactFields_eq (fields : Fields) : ∃ inside, compactFields fields = inside ++ ['}'] := by
  induction fields with
  | nil => exact ⟨[], rfl⟩
  | cons f rest ih =>
      cases rest with
      | nil => exact ⟨quoted f.1 ++ ':' :: compact f.2, by simp [compactFields]⟩
      | cons g rest =>
          obtain ⟨inside, h⟩ := ih
          exact ⟨quoted f.1 ++ ':' :: compact f.2 ++ ',' :: inside, by simp [compactFields, h]⟩

/-- Every value is written on one line. -/
theorem oneLine_compact (v : Json) : OneLine (compact v) := by
  cases v with
  | null => exact .of_isVisible (List.cons_ne_nil _ _) (by decide)
  | bool b => cases b <;> exact .of_isVisible (List.cons_ne_nil _ _) (by decide)
  | int n => exact .of_isVisible (intText_ne_nil n) (.intText n)
  | float x => exact oneLine_floatText x
  | str s => exact oneLine_quoted s
  | arr items =>
      obtain ⟨inside, h⟩ := compactItems_eq items
      have printable := printable_compactItems items
      rw [h, Printable.append_iff] at printable
      rw [compact, h]
      exact .enclosed (by decide) (by decide) printable.1
  | obj fields =>
      obtain ⟨inside, h⟩ := compactFields_eq fields
      have printable := printable_compactFields fields
      rw [h, Printable.append_iff] at printable
      rw [compact, h]
      exact .enclosed (by decide) (by decide) printable.1

end SyscallProfiler.Json
