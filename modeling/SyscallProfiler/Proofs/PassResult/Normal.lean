import SyscallProfiler.Proofs.Decode
import SyscallProfiler.Proofs.PassResult

/-!
# Results are read back from texts

A text is read into objects with their keys in order, which is not the order in which results are
written. A result is decoded from such an object as from the one that was written, provided that
the values in it are read as they were written.
-/

namespace SyscallProfiler

/-! ## The parts of a result -/

theorem Json.ofStrings_normal (items : List String) :
    (Json.ofStrings items).normal = .ofStrings items := by
  rw [ofStrings, normal, normalItems_eq_map, List.map_map]
  rfl

theorem Json.ofStrings_integral (items : List String) : (Json.ofStrings items).Integral := by
  rw [ofStrings, Integral, integralItems_iff]
  exact List.forall_mem_map.mpr fun _ _ => trivial

theorem Json.ofString?_normal (s : Option String) : (Json.ofString? s).normal = .ofString? s := by
  cases s <;> rfl

theorem Json.ofString?_integral (s : Option String) : (Json.ofString? s).Integral := by
  cases s <;> trivial

theorem Outcome.decode_normal {o : Outcome} (exact : ∀ v, o = .returned v → v.Exact) :
    decode o.toJson.normal = .ok o := by
  cases o with
  | returned v =>
      have distinct : ([("status", .str "returned"), ("detail", v)].map Prod.fst).Nodup := by
        simp
      have found := Json.lookup_sortFields_normalFields distinct
      have status := found "status"
      have detail := (found "detail").trans (congrArg some (exact v rfl).normal_eq)
      simp only [decode, toJson, Json.normal, status, detail]
      rfl
  | faulted m => rfl
  | timedOut => rfl

namespace Window

theorem record_apart : record.fields.Pairwise Decode.Field.Commutes := by
  simp only [record, List.pairwise_cons, List.forall_mem_cons, List.not_mem_nil, false_implies,
    implies_true, List.Pairwise.nil, and_true]
  all_goals exact Decode.Field.commutes_of_put fun _ _ _ => rfl

theorem Fits.integral {w : Window} (h : w.Fits) : w.toJson.Integral := by
  have fits {n : Nat} (h : n ≤ Json.maxUnsigned) : Json.Fits n :=
    ⟨by omega, Int.ofNat_le.mpr h⟩
  exact ⟨fits h.started, fits h.ended, trivial⟩

theorem decode_normal {w : Window} (h : w.Fits) : decode w.toJson.normal = .ok w := by
  have settled : record.Settled
      [("started_at_us", .ofNat w.startedAt), ("ended_at_us", .ofNat w.endedAt)] := by
    simp [Decode.Record.Settled, Json.ofNat, Json.normal]
  have filled := Decode.Record.fill_normal record_apart settled (by simp) (fill_toJson h)
  rw [decode, toJson, filled]
  rfl

end Window

/-! ## Results -/

namespace PassResult

/-- The values in a result are read from a text as they were written. -/
structure IsExact (r : PassResult) : Prop where
  input : r.input.toJson.Exact
  outcome : ∀ v ∈ r.outcome.bind Outcome.value?, v.Exact

instance (r : PassResult) : Decidable r.IsExact :=
  decidable_of_iff (r.input.toJson.Exact ∧ ∀ v ∈ r.outcome.bind Outcome.value?, v.Exact)
    ⟨fun h => ⟨h.1, h.2⟩, fun h => ⟨h.input, h.outcome⟩⟩

theorem IsExact.returned {r : PassResult} (exact : r.IsExact) {v : Json}
    (h : r.outcome = some (.returned v)) : v.Exact :=
  exact.outcome v (by rw [h]; rfl)

/-- All fields that can stand in a written result. -/
def columns (r : PassResult) : Json.Fields :=
  [("workload_name", .str r.workload), ("mode", .str r.pass.name), ("success", .bool r.success),
    ("outcome", (r.outcome.map Outcome.toJson).getD .null), ("input", r.input.toJson),
    ("artifact_paths", .ofStrings r.artifacts),
    ("window", (r.window.map Window.toJson).getD .null), ("error", .ofString? r.error),
    ("collector_escalated", .bool r.escalated), ("stdout", .str r.stdout),
    ("stderr", .str r.stderr)]

theorem fieldIf_sublist (present : Bool) (key : String) (v : Json) :
    (fieldIf present key v).Sublist [(key, v)] := by
  cases present
  · exact List.nil_sublist _
  · exact List.Sublist.refl _

theorem toJson_sublist (r : PassResult) :
    ∃ fields, r.toJson = .obj fields ∧ fields.Sublist r.columns := by
  refine ⟨_, rfl, ?_⟩
  exact (((((List.Sublist.refl _).append (fieldIf_sublist ..)).append (fieldIf_sublist ..)).append
    (List.Sublist.refl _)).append (fieldIf_sublist ..)).append (fieldIf_sublist ..)

theorem record_apart : record.fields.Pairwise Decode.Field.Commutes := by
  simp only [record, List.pairwise_cons, List.forall_mem_cons, List.not_mem_nil, false_implies,
    implies_true, List.Pairwise.nil, and_true]
  and_intros
  all_goals exact Decode.Field.commutes_of_put fun _ _ _ => rfl

theorem outcome_normal {r : PassResult} (exact : r.IsExact) :
    Decode.option Outcome.decode ((r.outcome.map Outcome.toJson).getD .null).normal =
      .ok r.outcome := by
  cases h : r.outcome with
  | none => rfl
  | some o =>
      have returned (v : Json) (e : o = .returned v) : v.Exact := exact.returned (e ▸ h)
      refine Decode.option_of_ok ?_ (Outcome.decode_normal returned)
      cases o <;> nofun

theorem window_normal {r : PassResult} (fits : ∀ w, r.window = some w → w.Fits) :
    Decode.option Window.decode ((r.window.map Window.toJson).getD .null).normal =
      .ok r.window := by
  cases h : r.window with
  | none => rfl
  | some w => exact Decode.option_of_ok nofun (Window.decode_normal (fits w h))

/-- Only an outcome and a window are objects whose fields are not in order. -/
theorem columns_settled {r : PassResult} (exact : r.IsExact)
    (fits : ∀ w, r.window = some w → w.Fits) : record.Settled r.columns := by
  have known {key : String} {f : Decode.Field Draft} (h : record.field? key = some f)
      {v w : Json} (same : ∀ draft, f.fill draft v = f.fill draft w) (draft : Draft) :
      record.put draft (key, v) = record.put draft (key, w) := by
    rw [Decode.Record.put_of_known h, Decode.Record.put_of_known h, same]
  simp only [Decode.Record.Settled, columns, List.forall_mem_cons, List.not_mem_nil, false_implies,
    implies_true, and_true]
  refine ⟨fun _ => rfl, fun _ => rfl, fun _ => rfl, ?_, ?_, ?_, ?_, ?_, fun _ => rfl,
    fun _ => rfl, fun _ => rfl⟩
  · refine known rfl fun draft => ?_
    simp only [r.decode_outcome, outcome_normal exact]
  · intro draft
    rw [exact.input.normal_eq]
  · intro draft
    rw [Json.ofStrings_normal]
  · refine known rfl fun draft => ?_
    simp only [decode_window fits, window_normal fits]
  · intro draft
    rw [Json.ofString?_normal]

theorem columns_nodup (r : PassResult) : (r.columns.map Prod.fst).Nodup := by
  simp [columns]

/-- A result is read back from its normal form, in which the fields of all objects are in
order. -/
theorem decode_normal {r : PassResult} (exact : r.IsExact)
    (fits : ∀ w, r.window = some w → w.Fits) : decode r.toJson.normal = .ok r := by
  obtain ⟨fields, written, among⟩ := r.toJson_sublist
  have settled : record.Settled fields :=
    fun f hf => columns_settled exact fits f (among.subset hf)
  have distinct := (among.map Prod.fst).nodup r.columns_nodup
  have filled := fill_toJson fits
  rw [written] at filled ⊢
  exact decode_of_fill (Decode.Record.fill_normal record_apart settled distinct filled)

theorem toJson_integral {r : PassResult} (exact : r.IsExact)
    (fits : ∀ w, r.window = some w → w.Fits) : r.toJson.Integral := by
  obtain ⟨fields, written, among⟩ := r.toJson_sublist
  have outcome : ((r.outcome.map Outcome.toJson).getD .null).Integral := by
    cases h : r.outcome with
    | none => trivial
    | some o =>
        cases o with
        | returned v => exact ⟨trivial, (exact.returned h).integral, trivial⟩
        | faulted m => exact ⟨trivial, trivial, trivial⟩
        | timedOut => exact ⟨trivial, trivial⟩
  have window : ((r.window.map Window.toJson).getD .null).Integral := by
    cases h : r.window with
    | none => trivial
    | some w => exact (fits w h).integral
  have all : Json.IntegralFields r.columns :=
    ⟨trivial, trivial, trivial, outcome, exact.input.integral, Json.ofStrings_integral _, window,
      Json.ofString?_integral _, trivial, trivial, trivial, trivial⟩
  rw [written, Json.Integral, Json.integralFields_iff]
  exact fun f hf => Json.integralFields_iff.mp all f (among.subset hf)

end PassResult

end SyscallProfiler
