import SyscallProfiler.Json.Number

/-!
# Values that texts hold exactly

A text holds integers of 64 bits as they are, while floating-point numbers are rounded
when they are read. Objects are read into ascending order of their keys, the order in
which all objects of a run already are. `Exact` collects the values for which neither
makes a difference; for the `Integral` ones the order of the fields does. `depth` measures
how far lists and objects are nested.
-/

namespace SyscallProfiler.Json

/-! ## Depth -/

mutual

/-- How deep lists and objects are nested in a value. A scalar has depth zero. -/
def depth : Json → Nat
  | .arr items => depthItems items + 1
  | .obj fields => depthFields fields + 1
  | _ => 0

def depthItems : List Json → Nat
  | [] => 0
  | v :: rest => max (depth v) (depthItems rest)

def depthFields : Fields → Nat
  | [] => 0
  | (_, v) :: rest => max (depth v) (depthFields rest)

end

/-! ## Exactness -/

/-- An integer that fits 64 bits, with a sign or without one. -/
def Fits (n : Int) : Prop := -(signedBound : Int) ≤ n ∧ n ≤ (maxUnsigned : Int)

instance (n : Int) : Decidable (Fits n) := inferInstanceAs (Decidable (_ ∧ _))

mutual

/-- A value all of whose numbers are integers of 64 bits and all of whose objects are
in ascending order of their keys. -/
def Exact : Json → Prop
  | .int n => Fits n
  | .float _ => False
  | .arr items => ExactItems items
  | .obj fields => Ascending fields ∧ ExactFields fields
  | _ => True

def ExactItems : List Json → Prop
  | [] => True
  | v :: rest => Exact v ∧ ExactItems rest

def ExactFields : Fields → Prop
  | [] => True
  | (_, v) :: rest => Exact v ∧ ExactFields rest

end

instance (fields : Fields) : Decidable (Ascending fields) :=
  inferInstanceAs (Decidable (List.Pairwise _ fields))

mutual

def decExact : (v : Json) → Decidable v.Exact
  | .null => isTrue trivial
  | .bool _ => isTrue trivial
  | .int n => inferInstanceAs (Decidable (Fits n))
  | .float _ => isFalse id
  | .str _ => isTrue trivial
  | .arr items => decExactItems items
  | .obj fields =>
    have := decExactFields fields
    inferInstanceAs (Decidable (Ascending fields ∧ ExactFields fields))

def decExactItems : (items : List Json) → Decidable (ExactItems items)
  | [] => isTrue trivial
  | v :: rest =>
    have := decExact v
    have := decExactItems rest
    inferInstanceAs (Decidable (Exact v ∧ ExactItems rest))

def decExactFields : (fields : Fields) → Decidable (ExactFields fields)
  | [] => isTrue trivial
  | (_, v) :: rest =>
    have := decExact v
    have := decExactFields rest
    inferInstanceAs (Decidable (Exact v ∧ ExactFields rest))

end

instance : DecidablePred Exact := decExact

/-! ## Ascending fields -/

/-- A field with a greater key than all others goes to the end. -/
theorem insert_of_lt {α : Type} {key : String} {value : α} {fields : List (String × α)}
    (h : ∀ f ∈ fields, f.1 < key) :
    insert key value fields = fields ++ [(key, value)] := by
  induction fields with
  | nil => rfl
  | cons f rest ih =>
      have hf : f.1 < key := h f List.mem_cons_self
      have hne : key ≠ f.1 := fun e => String.lt_irrefl key (e ▸ hf)
      rw [insert, if_neg (String.lt_asymm hf), if_neg hne,
        ih fun g hg => h g (List.mem_cons_of_mem f hg), List.cons_append]

/-- Sorting leaves fields alone that are in order already. -/
theorem sortFields_of_ascending {α : Type} {fields : List (String × α)}
    (h : Ascending fields) : sortFields fields = fields := by
  suffices go : ∀ done rest : List (String × α), Ascending (done ++ rest) →
      rest.foldl (fun fields f => insert f.1 f.2 fields) done = done ++ rest from
    go [] fields h
  intro done rest
  induction rest generalizing done with
  | nil => simp
  | cons f rest ih =>
      obtain ⟨key, value⟩ := f
      intro hf
      have before : ∀ g ∈ done, g.1 < key := by
        intro g hg
        exact (List.pairwise_append.mp hf).2.2 g hg (key, value) List.mem_cons_self
      have shift : done ++ (key, value) :: rest = done ++ [(key, value)] ++ rest := by simp
      simp only [List.foldl_cons, insert_of_lt before]
      rw [shift] at hf ⊢
      exact ih (done ++ [(key, value)]) hf

/-! ## Integers only -/

mutual

/-- A value all of whose numbers are integers of 64 bits. -/
def Integral : Json → Prop
  | .int n => Fits n
  | .float _ => False
  | .arr items => IntegralItems items
  | .obj fields => IntegralFields fields
  | _ => True

def IntegralItems : List Json → Prop
  | [] => True
  | v :: rest => Integral v ∧ IntegralItems rest

def IntegralFields : Fields → Prop
  | [] => True
  | (_, v) :: rest => Integral v ∧ IntegralFields rest

end

theorem integralItems_iff {items : List Json} :
    IntegralItems items ↔ ∀ v ∈ items, v.Integral := by
  induction items with
  | nil => exact iff_of_true trivial nofun
  | cons v rest ih => rw [IntegralItems, ih, List.forall_mem_cons]

theorem integralFields_iff {fields : Fields} :
    IntegralFields fields ↔ ∀ f ∈ fields, f.2.Integral := by
  induction fields with
  | nil => exact iff_of_true trivial nofun
  | cons f rest ih => rw [IntegralFields, ih, List.forall_mem_cons]

mutual

theorem Exact.integral : {v : Json} → v.Exact → v.Integral
  | .null, _ | .bool _, _ | .str _, _ => trivial
  | .int _, h => h
  | .float _, h => h.elim
  | .arr _, h => ExactItems.integral h
  | .obj _, h => ExactFields.integral h.2

theorem ExactItems.integral : {items : List Json} → ExactItems items → IntegralItems items
  | [], _ => trivial
  | _ :: _, h => ⟨h.1.integral, h.2.integral⟩

theorem ExactFields.integral : {fields : Fields} → ExactFields fields → IntegralFields fields
  | [], _ => trivial
  | _ :: _, h => ⟨h.1.integral, h.2.integral⟩

end

/-! ## Normal forms -/

theorem normalItems_eq_map (items : List Json) : normalItems items = items.map normal := by
  induction items with
  | nil => rfl
  | cons v rest ih => rw [normalItems, ih, List.map_cons]

theorem normalFields_eq_map (fields : Fields) :
    normalFields fields = fields.map fun f => (f.1, f.2.normal) := by
  induction fields with
  | nil => rfl
  | cons f rest ih => rw [normalFields, ih, List.map_cons]

mutual

/-- An exact value is normal: its fields are in order, and no number is missing in JSON. -/
theorem Exact.normal_eq : {v : Json} → v.Exact → v.normal = v
  | .null, _ | .bool _, _ | .str _, _ | .int _, _ => rfl
  | .float _, h => h.elim
  | .arr items, h => by rw [normal, ExactItems.normal_eq h]
  | .obj fields, h => by
      rw [normal, ExactFields.normal_eq h.2, sortFields_of_ascending h.1]

theorem ExactItems.normal_eq : {items : List Json} → ExactItems items → normalItems items = items
  | [], _ => rfl
  | _ :: _, h => by rw [normalItems, h.1.normal_eq, h.2.normal_eq]

theorem ExactFields.normal_eq : {fields : Fields} → ExactFields fields →
    normalFields fields = fields
  | [], _ => rfl
  | _ :: _, h => by rw [normalFields, h.1.normal_eq, h.2.normal_eq]

end

end SyscallProfiler.Json
