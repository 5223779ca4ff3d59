import SyscallProfiler.Loader.Native
import SyscallProfiler.Proofs.Json.RoundTrip
import SyscallProfiler.Proofs.Text.Utf8

/-!
# Handing a payload to an entry point

An entry point takes octets that end with the first zero, and its output is read in the same
way. The text of a payload has no zero, whatever characters its names and values have, so it
arrives in full; and a copy of it is read back in full. What is read back is the payload itself
as long as it is exact and not nested too deeply for the reader.
-/

namespace SyscallProfiler

open Text (Utf8.encode)

/-! ## Texts that end with a zero -/

namespace RawText

/-- The ways to leave a text: as it is or as its octets, and with anything after a zero. -/
inductive Spells (s : String) : RawText → Prop where
  | text : Spells s (.text s)
  | textBefore (after : List Char) :
      Spells s (.text (String.ofList (s.toList ++ '\x00' :: after)))
  | octets : Spells s (.octets (Utf8.encode s))
  | octetsBefore (after : List UInt8) : Spells s (.octets (Utf8.encode s ++ 0 :: after))

/-- A text without a zero is read back, whatever stands behind the zero after it. -/
theorem Spells.upToNul_eq {s : String} {raw : RawText} (spells : raw.Spells s)
    (nonzero : ∀ c ∈ s.toList, c.toNat ≠ 0) : raw.upToNul = s := by
  have chars : ∀ c ∈ s.toList, (c.toNat != 0) = true := by
    intro c hc
    exact bne_iff_ne.mpr (nonzero c hc)
  have octets : ∀ b ∈ Utf8.encode s, (b != 0) = true := by
    intro b hb
    rw [bne_iff_ne]
    rintro rfl
    exact Text.Utf8.zero_notMem_encode nonzero hb
  cases spells with
  | text =>
      rw [upToNul, List.takeWhile_eq_self_iff.mpr chars, String.ofList_toList]
  | textBefore after =>
      rw [upToNul, String.toList_ofList, List.takeWhile_append_of_pos chars,
        List.takeWhile_cons_of_neg (by decide), List.append_nil, String.ofList_toList]
  | octets =>
      rw [upToNul, List.takeWhile_eq_self_iff.mpr octets, Text.Utf8.decode_encode]
  | octetsBefore after =>
      rw [upToNul, List.takeWhile_append_of_pos octets,
        List.takeWhile_cons_of_neg (by decide), List.append_nil, Text.Utf8.decode_encode]

end RawText

/-! ## The text of a payload -/

/-- The names and values of a payload may have any characters. Its text has escapes in the place
of all control characters, zero among them. -/
theorem Payload.nonzero_of_mem_text (input : Payload) :
    ∀ c ∈ input.text.toList, c.toNat ≠ 0 := by
  intro c hc
  rw [text, Json.text, String.toList_ofList] at hc
  have printable : 32 ≤ c.toNat := Json.printable_compact input.toJson c hc
  omega

theorem Payload.hasNul_text (input : Payload) : Path.hasNul input.text = false := by
  rw [Path.hasNul, List.any_eq_false]
  intro c hc
  rw [beq_iff_eq]
  exact input.nonzero_of_mem_text c hc

theorem Payload.ofText_text {input : Payload} (exact : input.toJson.Exact)
    (nested : input.toJson.depth ≤ Json.maxDepth) : Json.ofText input.text = .ok input.toJson := by
  rw [Json.ofText, text, Json.text, String.toList_ofList]
  exact Json.read_compact exact nested

/-! ## Calls -/

namespace Loader

/-- The entry point succeeds on the text and leaves a copy of it. -/
def Copies (handler : String → Handled) (text : String) : Prop :=
  (handler text).status = 0 ∧ ∃ raw, (handler text).output = some raw ∧ raw.Spells text

/-- The path is that of an object with an entry point. -/
structure Loads (files : Files) (cwd : Location) (path : String) (u : NativeUnit) : Prop where
  noNul : Path.hasNul path = false
  opens : openObject files cwd path = .ok u
  hasHandler : u.hasHandler = true

theorem Loads.run_eq {files : Files} {cwd : Location} {path : String} {u : NativeUnit}
    (loads : Loads files cwd path u) (input : Payload) :
    run files cwd path input = invoke u.call input := by
  simp only [run, loads.noNul, loads.opens, loads.hasHandler, Bool.false_eq_true, if_false, if_true]

theorem invoke_eq (handler : String → Handled) (input : Payload) :
    invoke handler input = (Handled.value (handler input.text), (handler input.text).chatter) := by
  rw [invoke, input.hasNul_text, if_neg Bool.false_ne_true]

/-- What a call amounts to is never that its input could not be handed over. -/
theorem value_ne_nulInInput (h : Handled) : Handled.value h ≠ .error .nulInInput := by
  intro e
  rw [Handled.value] at e
  split at e
  · split at e <;> cases e
  · split at e
    · cases e
    · split at e <;> cases e

/-- A copy of the text of a payload is read as the payload. -/
theorem Copies.value_eq {handler : String → Handled} {input : Payload}
    (copies : Copies handler input.text) (exact : input.toJson.Exact)
    (nested : input.toJson.depth ≤ Json.maxDepth) :
    Handled.value (handler input.text) = .ok input.toJson := by
  obtain ⟨success, raw, left, spells⟩ := copies
  have output : (handler input.text).output.map RawText.upToNul = some input.text := by
    rw [left, Option.map_some, spells.upToNul_eq input.nonzero_of_mem_text]
  have read := Payload.ofText_text exact nested
  simp only [Handled.value, success, output, read, ne_eq, not_true_eq_false, if_false]

theorem copies_of_echo {u : NativeUnit} (success : u.status = 0) (echo : u.reply = .echo)
    (text : String) : Copies u.call text := by
  refine ⟨success, .text text, ?_, .text⟩
  simp only [NativeUnit.call, echo]

/-- Every payload is handed over: an entry point is called with its text, and gets all of it up
to the zero that ends it. One that leaves a copy gives the payload back, as long as the payload
has no floating-point numbers and is not nested more than 127 deep. -/
theorem invoke_delivers (input : Payload) :
    (∀ raw : RawText, raw.Spells input.text → raw.upToNul = input.text) ∧
      (∀ handler : String → Handled,
        invoke handler input =
            (Handled.value (handler input.text), (handler input.text).chatter) ∧
          (invoke handler input).1 ≠ .error .nulInInput ∧
          (input.toJson.Exact → input.toJson.depth ≤ 127 → Copies handler input.text →
            (invoke handler input).1 = .ok input.toJson)) ∧
      ∀ (files : Files) (cwd : Location) (path : String) (u : NativeUnit),
        Loads files cwd path u → run files cwd path input = invoke u.call input := by
  refine ⟨?_, ?_, ?_⟩
  · intro raw spells
    exact spells.upToNul_eq input.nonzero_of_mem_text
  · intro handler
    rw [invoke_eq]
    refine ⟨rfl, value_ne_nulInInput _, ?_⟩
    intro exact nested copies
    exact copies.value_eq exact nested
  · intro files cwd path u loads
    exact loads.run_eq input

/-- A unit that gives its input back. -/
def echoUnit : NativeUnit := { status := 0, reply := .echo, chatter := "", hasHandler := true }

/-- Files with nothing but that unit. -/
def echoFiles : Files := ⟨.directory [("echo.so", .unit echoUnit)]⟩

theorem loads_echo : Loads echoFiles [] "/echo.so" echoUnit where
  noNul := by decide
  opens := by
    have short : "/echo.so".utf8ByteSize = 8 := rfl
    have shortPart : "echo.so".utf8ByteSize = 7 := rfl
    simp [openObject, Files.find, Files.place, Files.walk, Path.hasNul, Path.isLong, Path.longest,
      Path.isLongPart, Path.longestPart, Path.isAbsolute, Path.components, Path.splitSlash,
      echoFiles, Files.at?, Node.at?, Node.child?, short, shortPart]
  hasHandler := rfl

/-- Control characters, zeros among them, in a name and in a value. -/
def controlPayload : Payload :=
  .ofPairs [("\x00key", .str "a\x00b\x1fc"), ("nested", .arr [.obj [("n", .int (-5))], .null])]

theorem invoke_delivers_controlPayload :
    (run echoFiles [] "/echo.so" controlPayload).1 = .ok controlPayload.toJson := by
  obtain ⟨_, called, loaded⟩ := invoke_delivers controlPayload
  rw [loaded echoFiles [] "/echo.so" echoUnit loads_echo]
  exact (called echoUnit.call).2.2 (by decide) (by decide)
    (copies_of_echo rfl rfl controlPayload.text)

end Loader

end SyscallProfiler
