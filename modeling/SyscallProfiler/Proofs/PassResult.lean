import SyscallProfiler.PassResult
import SyscallProfiler.Proofs.Json.Exact

/-!
# Results are read back

A result is written as an object that leaves out what says nothing, and is read field by field
into a draft in which exactly these fields already stand. So what is read back from a written
result is the result. Each decoder reads back what stands beside it in the same module, and a
combinator reads back what its parts do.
-/

namespace SyscallProfiler

/-! ## Decoders and what they read -/

namespace Decode

variable {α σ : Type}

theorem string_str (s : String) : string (.str s) = .ok s := rfl

theorem bool_bool (b : Bool) : bool (.bool b) = .ok b := rfl

theorem option_of_ok {item : Json → Result α} {v : Json} {a : α} (hv : v ≠ .null)
    (h : item v = .ok a) : option item v = .ok (some a) := by
  cases v with
  | null => exact absurd rfl hv
  | _ => exact congrArg (Except.map some) h

/-- A list is read back if each of its items is. -/
theorem each_map {item : Json → Result α} {write : α → Json} :
    {items : List α} → (∀ a ∈ items, item (write a) = .ok a) →
      each item (items.map write) = .ok items
  | [], _ => rfl
  | a :: rest, h => by
      obtain ⟨first, later⟩ := List.forall_mem_cons.mp h
      rw [List.map_cons, each, first, each_map later]

theorem list_ofStrings (items : List String) : list path (.ofStrings items) = .ok items :=
  each_map fun _ _ => rfl

theorem nat64_ofNat {n : Nat} (h : n ≤ Json.maxUnsigned) : nat64 (.ofNat n) = .ok n := by
  have low : (0 : Int) ≤ n := Int.natCast_nonneg n
  have high : (n : Int) ≤ Int.ofNat Json.maxUnsigned := Int.ofNat_le.mpr h
  rw [nat64, Json.ofNat, integer, decide_eq_true low, decide_eq_true high]
  rfl

namespace Record

variable {β : Type} {r : Record σ} {key name : String} {v : Json} {draft : σ} {b : β}
variable {item : Json → Result β} {put : σ → β → σ} {optional : Bool} {rest : Json.Fields}

/-- A known field is put into the draft, and the rest of the fields after it. -/
theorem fillFields_cons
    (known : r.field? key = some ⟨name, fun d v => (item v).map (put d), optional⟩)
    (h : item v = .ok b) :
    r.fillFields draft ((key, v) :: rest) = r.fillFields (put draft b) rest := by
  rw [fillFields, known]
  simp only [h, Except.map]

/-- An optional value that is left out is not missed: the draft has none to begin with. -/
theorem fillFields_option {item : Json → Result α} {put : σ → Option α → σ}
    (known : r.field? key = some ⟨name, fun d v => (option item v).map (put d), optional⟩)
    {write : α → Json} {o : Option α} (h : ∀ a, o = some a → option item (write a) = .ok (some a))
    (fresh : put draft none = draft) :
    r.fillFields draft (PassResult.fieldIf o.isSome key ((o.map write).getD .null) ++ rest) =
      r.fillFields (put draft o) rest := by
  cases o with
  | none =>
      rw [fresh]
      rfl
  | some a => exact fillFields_cons known (h a rfl)

/-- A text that is left out is not missed: the draft has an empty one to begin with. -/
theorem fillFields_text {put : σ → String → σ}
    (known : r.field? key = some ⟨name, fun d v => (string v).map (put d), optional⟩) {s : String}
    (fresh : put draft "" = draft) :
    r.fillFields draft (PassResult.fieldIf (s != "") key (.str s) ++ rest) =
      r.fillFields (put draft s) rest := by
  cases there : s != "" with
  | true => exact fillFields_cons known (string_str s)
  | false =>
      rw [bne_eq_false_iff_eq.mp there, fresh]
      rfl

end Record

end Decode

/-! ## The parts of a result -/

theorem Pass.decode_name (pass : Pass) : Pass.decode (.str pass.name) = .ok pass := by
  cases pass <;> rfl

theorem Payload.decode_toJson (p : Payload) : Payload.decode p.toJson = .ok p :=
  congrArg Except.ok (Payload.ext (Json.sortFields_of_ascending p.ascending))

theorem Outcome.decode_toJson (o : Outcome) : Outcome.decode o.toJson = .ok o := by
  cases o <;> rfl

theorem Outcome.toJson_ne_null (o : Outcome) : o.toJson ≠ .null := by
  cases o <;> nofun

/-- The bounds of a window are numbers of 64 bits. -/
structure Window.Fits (w : Window) : Prop where
  started : w.startedAt ≤ Json.maxUnsigned
  ended : w.endedAt ≤ Json.maxUnsigned

namespace Window

variable {w : Window}

theorem fill_toJson (h : w.Fits) :
    record.fill ⟨none, none⟩ w.toJson = .ok ⟨some w.startedAt, some w.endedAt⟩ := by
  rw [toJson, Decode.Record.fill, Decode.Record.fillFields_cons rfl (Decode.nat64_ofNat h.started),
    Decode.Record.fillFields_cons rfl (Decode.nat64_ofNat h.ended)]
  rfl

theorem decode_toJson (h : w.Fits) : decode w.toJson = .ok w := by
  rw [decode, fill_toJson h]
  rfl

end Window

/-! ## Results -/

namespace PassResult

/-- The draft in which everything of a result stands that is always written first, with the
given rest. -/
def draft (r : PassResult) (window : Option Window) (error : Option String) (escalated : Bool)
    (stdout stderr : String) : Draft :=
  ⟨some r.workload, some r.pass, some r.success, r.outcome, some r.input, some r.artifacts,
    window, error, escalated, stdout, stderr⟩

theorem decode_outcome (r : PassResult) :
    Decode.option Outcome.decode ((r.outcome.map Outcome.toJson).getD .null) = .ok r.outcome := by
  cases r.outcome with
  | none => rfl
  | some o => exact Decode.option_of_ok o.toJson_ne_null o.decode_toJson

theorem decode_window {r : PassResult} (fits : ∀ w, r.window = some w → w.Fits) :
    Decode.option Window.decode ((r.window.map Window.toJson).getD .null) = .ok r.window := by
  cases h : r.window with
  | none => rfl
  | some w => exact Decode.option_of_ok nofun (Window.decode_toJson (fits w h))

section Fields

variable (r : PassResult) (rest : Json.Fields)

theorem fillFields_first :
    record.fillFields Draft.empty
        ([("workload_name", .str r.workload), ("mode", .str r.pass.name),
          ("success", .bool r.success), ("outcome", (r.outcome.map Outcome.toJson).getD .null),
          ("input", r.input.toJson), ("artifact_paths", .ofStrings r.artifacts)] ++ rest) =
      record.fillFields (r.draft none none false "" "") rest := by
  simp only [List.cons_append, List.nil_append]
  rw [Decode.Record.fillFields_cons rfl (Decode.string_str r.workload),
    Decode.Record.fillFields_cons rfl r.pass.decode_name,
    Decode.Record.fillFields_cons rfl (Decode.bool_bool r.success),
    Decode.Record.fillFields_cons rfl r.decode_outcome,
    Decode.Record.fillFields_cons rfl r.input.decode_toJson,
    Decode.Record.fillFields_cons rfl (Decode.list_ofStrings r.artifacts)]
  rfl

theorem fillFields_window (fits : ∀ w, r.window = some w → w.Fits) :
    record.fillFields (r.draft none none false "" "")
        (fieldIf r.window.isSome "window" ((r.window.map Window.toJson).getD .null) ++ rest) =
      record.fillFields (r.draft r.window none false "" "") rest := by
  have known : record.field? "window" = some ⟨"window", fun d v =>
      (Decode.option Window.decode v).map fun x => { d with window := x }, false⟩ := rfl
  have read (w : Window) (h : r.window = some w) :
      Decode.option Window.decode w.toJson = .ok (some w) :=
    Decode.option_of_ok nofun (Window.decode_toJson (fits w h))
  exact Decode.Record.fillFields_option known read rfl

theorem fillFields_error :
    record.fillFields (r.draft r.window none false "" "")
        (fieldIf r.error.isSome "error" (.ofString? r.error) ++ rest) =
      record.fillFields (r.draft r.window r.error false "" "") rest := by
  have known : record.field? "error" = some ⟨"error", fun d v =>
      (Decode.option Decode.string v).map fun x => { d with error := x }, false⟩ := rfl
  have written : Json.ofString? r.error = (r.error.map Json.str).getD .null := by
    cases r.error <;> rfl
  rw [written]
  exact Decode.Record.fillFields_option known (fun e _ => rfl) rfl

theorem fillFields_escalated :
    record.fillFields (r.draft r.window r.error false "" "")
        (("collector_escalated", .bool r.escalated) :: rest) =
      record.fillFields (r.draft r.window r.error r.escalated "" "") rest := by
  have known : record.field? "collector_escalated" = some ⟨"collector_escalated", fun d v =>
      (Decode.bool v).map fun x => { d with escalated := x }, true⟩ := rfl
  exact Decode.Record.fillFields_cons known (Decode.bool_bool r.escalated)

theorem fillFields_stdout :
    record.fillFields (r.draft r.window r.error r.escalated "" "")
        (fieldIf (r.stdout != "") "stdout" (.str r.stdout) ++ rest) =
      record.fillFields (r.draft r.window r.error r.escalated r.stdout "") rest := by
  have known : record.field? "stdout" = some ⟨"stdout", fun d v =>
      (Decode.string v).map fun x => { d with stdout := x }, true⟩ := rfl
  exact Decode.Record.fillFields_text known rfl

theorem fillFields_stderr :
    record.fillFields (r.draft r.window r.error r.escalated r.stdout "")
        (fieldIf (r.stderr != "") "stderr" (.str r.stderr) ++ rest) =
      record.fillFields (r.draft r.window r.error r.escalated r.stdout r.stderr) rest := by
  have known : record.field? "stderr" = some ⟨"stderr", fun d v =>
      (Decode.string v).map fun x => { d with stderr := x }, true⟩ := rfl
  exact Decode.Record.fillFields_text known rfl

end Fields

/-- One part of the object after the other is put into the draft, in the order in which they are
written. -/
theorem fill_toJson {r : PassResult} (fits : ∀ w, r.window = some w → w.Fits) :
    record.fill Draft.empty r.toJson =
      .ok (r.draft r.window r.error r.escalated r.stdout r.stderr) := by
  rw [toJson, Decode.Record.fill]
  simp only [List.append_assoc]
  rw [fillFields_first, fillFields_window r _ fits, fillFields_error, List.singleton_append,
    fillFields_escalated, fillFields_stdout, ← List.append_nil (fieldIf (r.stderr != "") _ _),
    fillFields_stderr]
  rfl

theorem decode_of_fill {r : PassResult} {v : Json}
    (filled : record.fill Draft.empty v =
      .ok (r.draft r.window r.error r.escalated r.stdout r.stderr)) : decode v = .ok r := by
  rw [decode, filled]
  rfl

/-- A result is read back from what is written of it, if its window fits into numbers of
64 bits. -/
theorem decode_toJson {r : PassResult} (fits : ∀ w, r.window = some w → w.Fits) :
    decode r.toJson = .ok r :=
  decode_of_fill (fill_toJson fits)

end PassResult

end SyscallProfiler
