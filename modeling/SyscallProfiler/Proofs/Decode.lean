import Mathlib.Data.List.Pairwise
import SyscallProfiler.Decode
import SyscallProfiler.Proofs.Json.Bindings

/-!
# Records in any order

Each field of a record is decoded by itself and put into a place of its own in the draft. So a
draft that is filled in one order of the fields is filled alike in every other one, as long as no
key stands twice. Texts are read into objects with their keys in order, and this is why a record
need not be written in that order to be read back.
-/

namespace SyscallProfiler.Decode

variable {σ α β : Type}

/-- It makes no difference which of two fields is put into a draft first. -/
def Field.Commutes (f g : Field σ) : Prop :=
  ∀ (draft : σ) (v w : Json) (filled : σ),
    (∃ half, f.fill draft v = .ok half ∧ g.fill half w = .ok filled) ↔
      ∃ half, g.fill draft w = .ok half ∧ f.fill half v = .ok filled

instance : Std.Symm (@Field.Commutes σ) :=
  ⟨fun _ _ h draft v w filled => (h draft w v filled).symm⟩

/-- Fields with places of their own commute. -/
theorem Field.commutes_of_put {item : Json → Result α} {item' : Json → Result β}
    {put : σ → α → σ} {put' : σ → β → σ} {name name' : String} {optional optional' : Bool}
    (apart : ∀ draft a b, put' (put draft a) b = put (put' draft b) a) :
    Field.Commutes ⟨name, fun draft v => (item v).map (put draft), optional⟩
      ⟨name', fun draft v => (item' v).map (put' draft), optional'⟩ := by
  intro draft v w filled
  cases hv : item v with
  | error e => simp [Except.map, hv]
  | ok a =>
      cases hw : item' w with
      | error e => simp [Except.map, hw]
      | ok b => simp [Except.map, hv, hw, apart]

namespace Record

variable {r : Record σ} {draft filled : σ} {fields fields' : Json.Fields}

/-- Puts one field of an object into a draft. -/
def put (r : Record σ) (draft : σ) (f : String × Json) : Result σ :=
  r.fillFields draft [f]

theorem put_of_known {f : Field σ} {key : String} (known : r.field? key = some f) (v : Json) :
    r.put draft (key, v) = f.fill draft v := by
  rw [put, fillFields, known]
  cases hf : f.fill draft v <;> simp [fillFields, hf]

theorem put_of_unknown {key : String} (unknown : r.field? key = none) (v : Json) :
    r.put draft (key, v) =
      if r.closed then .error (.unknownField key (r.fields.map (·.name))) else .ok draft := by
  rw [put, fillFields, unknown]
  rfl

theorem fillFields_eq_ok_iff {f : String × Json} :
    r.fillFields draft (f :: fields) = .ok filled ↔
      ∃ half, r.put draft f = .ok half ∧ r.fillFields half fields = .ok filled := by
  obtain ⟨key, v⟩ := f
  rw [fillFields]
  cases known : r.field? key with
  | none =>
      rw [put_of_unknown known]
      cases r.closed <;> simp
  | some f =>
      rw [put_of_known known]
      cases hf : f.fill draft v <;> simp [hf]

/-- The key that is looked for is the name of the field that is found. -/
theorem name_of_field? {key : String} {f : Field σ} (known : r.field? key = some f) :
    f.name = key := by
  have found := List.find?_some (p := fun f : Field σ => f.name == key) known
  exact beq_iff_eq.mp found

section Orders

variable (apart : r.fields.Pairwise Field.Commutes)
include apart

theorem put_put_eq_ok_iff {f g : String × Json} (other : f.1 ≠ g.1) :
    (∃ half, r.put draft f = .ok half ∧ r.put half g = .ok filled) ↔
      ∃ half, r.put draft g = .ok half ∧ r.put half f = .ok filled := by
  obtain ⟨key, v⟩ := f
  obtain ⟨key', w⟩ := g
  cases known : r.field? key with
  | none =>
      simp only [put_of_unknown known]
      cases r.closed <;> simp
  | some f =>
      cases known' : r.field? key' with
      | none =>
          simp only [put_of_unknown known']
          cases r.closed <;> simp
      | some g =>
          have distinct : f ≠ g := by
            rintro rfl
            exact other ((name_of_field? known).symm.trans (name_of_field? known'))
          simp only [put_of_known known, put_of_known known']
          exact apart.forall (List.mem_of_find?_eq_some known) (List.mem_of_find?_eq_some known')
            distinct draft v w filled

/-- The order of the fields makes no difference to a draft that can be filled. The induction is on
the exchanges that lead from one order to the other. -/
theorem fillFields_perm (perm : fields.Perm fields') (distinct : (fields.map Prod.fst).Nodup)
    (h : r.fillFields draft fields = .ok filled) : r.fillFields draft fields' = .ok filled := by
  induction perm generalizing draft with
  | nil => exact h
  | cons f _ ih =>
      obtain ⟨half, first, later⟩ := fillFields_eq_ok_iff.mp h
      exact fillFields_eq_ok_iff.mpr ⟨half, first, ih (List.nodup_cons.mp distinct).2 later⟩
  | swap f g rest =>
      have other : g.1 ≠ f.1 := by
        intro same
        exact (List.nodup_cons.mp distinct).1 (same ▸ List.mem_cons_self)
      obtain ⟨half, first, h⟩ := fillFields_eq_ok_iff.mp h
      obtain ⟨whole, second, later⟩ := fillFields_eq_ok_iff.mp h
      obtain ⟨half', second', first'⟩ := (put_put_eq_ok_iff apart other).mp ⟨half, first, second⟩
      have rest := fillFields_eq_ok_iff.mpr ⟨whole, first', later⟩
      exact fillFields_eq_ok_iff.mpr ⟨half', second', rest⟩
  | trans first _ ih ih' => exact ih' ((first.map Prod.fst).nodup distinct) (ih distinct h)

end Orders

/-- Fields whose values are decoded from their normal forms as well. -/
def Settled (r : Record σ) (fields : Json.Fields) : Prop :=
  ∀ f ∈ fields, ∀ draft, r.put draft (f.1, f.2.normal) = r.put draft f

theorem fillFields_normalFields (settled : r.Settled fields)
    (h : r.fillFields draft fields = .ok filled) :
    r.fillFields draft (Json.normalFields fields) = .ok filled := by
  induction fields generalizing draft with
  | nil => exact h
  | cons f rest ih =>
      obtain ⟨first, later⟩ := List.forall_mem_cons.mp settled
      obtain ⟨half, hf, hrest⟩ := fillFields_eq_ok_iff.mp h
      exact fillFields_eq_ok_iff.mpr ⟨half, (first draft).trans hf, ih later hrest⟩

/-- A draft that an object fills is filled by its normal form too. -/
theorem fill_normal (apart : r.fields.Pairwise Field.Commutes) (settled : r.Settled fields)
    (distinct : (fields.map Prod.fst).Nodup) (h : r.fill draft (.obj fields) = .ok filled) :
    r.fill draft (Json.obj fields).normal = .ok filled := by
  rw [← Json.map_fst_normalFields] at distinct
  have sorted := (Json.sortFields_perm distinct).symm
  exact fillFields_perm apart sorted distinct (fillFields_normalFields settled h)

end Record

end SyscallProfiler.Decode
