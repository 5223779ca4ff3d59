import SyscallProfiler.Proofs.Json.Bindings
import SyscallProfiler.Workload.Registry

/-!
# Inputs that are put over others

Tables of inputs may be put over those of a registry again and again. The last table that mentions
a unit gives its input, as a whole: nothing of an earlier payload is left in it. A unit that no
table mentions keeps its input, and which units there are and which of them a query asks for has
nothing to do with tables.
-/

namespace SyscallProfiler

/-- In ascending fields each binding is the last one of its key. -/
theorem Json.Ascending.lastBound?_eq_some_iff {α : Type} {fields : List (String × α)} {key : String}
    {value : α} (h : Ascending fields) :
    lastBound? key fields = some value ↔ (key, value) ∈ fields := by
  rw [← mem_sortFields_iff, sortFields_of_ascending h]

theorem Json.lastBound?_eq_none_iff {α : Type} {key : String} {pairs : List (String × α)} :
    lastBound? key pairs = none ↔ key ∉ pairs.map Prod.fst := by
  rw [lastBound?, Option.map_eq_none_iff, List.getLast?_eq_none_iff, List.filter_eq_nil_iff,
    List.mem_map, not_exists]
  constructor
  · intro others pair bound
    exact others pair bound.1 (beq_iff_eq.mpr bound.2)
  · intro unbound pair among same
    exact unbound pair ⟨among, beq_iff_eq.mp same⟩

namespace Registry

variable {r r' : Registry} {tables before after : List (List (String × Payload))}
  {table : List (String × Payload)} {name : String} {payload : Payload}

/-- The registry with tables put over its inputs, one after the other. -/
def overrideAll (r : Registry) (tables : List (List (String × Payload))) : Registry :=
  tables.foldl override r

/-- The table has an entry with the name. -/
def IsBound (name : String) (table : List (String × Payload)) : Prop := name ∈ table.map Prod.fst

instance (name : String) (table : List (String × Payload)) : Decidable (IsBound name table) :=
  inferInstanceAs (Decidable (name ∈ table.map Prod.fst))

/-! ## Inputs -/

/-- A table gives the inputs of the units that it mentions, and of no others. -/
theorem inputOf_override (r : Registry) (table : List (String × Payload)) (name : String) :
    (r.override table).inputOf name = (Json.lastBound? name table).getD (r.inputOf name) := by
  have found : Json.lookup name (r.override table).inputs =
      (Json.lastBound? name table).or (Json.lookup name r.inputs) :=
    Json.lookup_foldl_insert name table r.inputs
  rw [inputOf, found]
  cases Json.lastBound? name table with
  | none => rfl
  | some payload => rfl

theorem inputOf_override_of_mem (maps : Json.Ascending table) (among : (name, payload) ∈ table) :
    (r.override table).inputOf name = payload := by
  rw [inputOf_override, maps.lastBound?_eq_some_iff.mpr among, Option.getD_some]

theorem inputOf_override_of_not_isBound (unmentioned : ¬IsBound name table) :
    (r.override table).inputOf name = r.inputOf name := by
  rw [inputOf_override, Json.lastBound?_eq_none_iff.mpr unmentioned, Option.getD_none]

/-- Tables leave the inputs of the units that they do not mention. The induction is on the tables,
each of which is put over a registry that has the input still. -/
theorem inputOf_overrideAll_of_not_isBound (unmentioned : ∀ table ∈ tables, ¬IsBound name table) :
    (r.overrideAll tables).inputOf name = r.inputOf name := by
  induction tables generalizing r with
  | nil => rfl
  | cons table rest ih =>
      have first : ¬IsBound name table := unmentioned table List.mem_cons_self
      have later : ∀ table ∈ rest, ¬IsBound name table := fun table among =>
        unmentioned table (List.mem_cons_of_mem _ among)
      calc ((r.override table).overrideAll rest).inputOf name
        _ = (r.override table).inputOf name := ih later
        _ = r.inputOf name := inputOf_override_of_not_isBound first

theorem overrideAll_split :
    r.overrideAll (before ++ table :: after) =
      ((r.overrideAll before).override table).overrideAll after := by
  rw [overrideAll, List.foldl_append]
  rfl

theorem inputOf_overrideAll_of_last (maps : Json.Ascending table) (among : (name, payload) ∈ table)
    (last : ∀ later ∈ after, ¬IsBound name later) :
    (r.overrideAll (before ++ table :: after)).inputOf name = payload := by
  rw [overrideAll_split, inputOf_overrideAll_of_not_isBound last,
    inputOf_override_of_mem maps among]

theorem ascending_suiteInputs : Json.Ascending suiteInputs := Json.ascending_sortFields _

theorem inputOf_ofUnits_of_mem (units : List Workload) (known : (name, payload) ∈ suiteInputs) :
    (ofUnits units).inputOf name = payload := by
  have found : Json.lookup name suiteInputs = some payload :=
    ascending_suiteInputs.lookup_eq_some_iff.mpr known
  rw [inputOf, ofUnits, found, Option.getD_some]

theorem inputOf_ofUnits_of_not_isBound (units : List Workload)
    (unknown : ¬IsBound name suiteInputs) :
    (ofUnits units).inputOf name = .placeholder := by
  have missed : Json.lookup name suiteInputs = none := Json.lookup_eq_none_iff.mpr unknown
  rw [inputOf, ofUnits, missed, Option.getD_none]

/-! ## Units -/

theorem units_overrideAll : (r.overrideAll tables).units = r.units := by
  induction tables generalizing r with
  | nil => rfl
  | cons table rest ih => exact ih

theorem find?_congr (same : r.units = r'.units) (name : String) : r.find? name = r'.find? name := by
  rw [find?, find?, same]

theorem resolve?_congr (same : r.units = r'.units) (query : String) :
    r.resolve? query = r'.resolve? query := by
  rw [resolve?, resolve?, find?_congr same, same]

/-- Tables that bind each name once are put over the inputs of a registry, one after the other.
Then the input of a unit is the payload that is bound to its name in the last table that mentions
it, and the whole of that payload. Where no table mentions it, its input is the earlier one: that
of the benchmark suite in a registry to which nothing else has been done, or the placeholder if the
suite has none. The units, and the answers to all names and queries, stay what they were. -/
theorem overrideAll_last_wins (r : Registry) (maps : ∀ table ∈ tables, Json.Ascending table) :
    (∀ before table after name payload, tables = before ++ table :: after →
      (name, payload) ∈ table → (∀ later ∈ after, ¬IsBound name later) →
        (r.overrideAll tables).inputOf name = payload) ∧
    (∀ name, (∀ table ∈ tables, ¬IsBound name table) →
      (r.overrideAll tables).inputOf name = r.inputOf name ∧
      ∀ units,
        (∀ payload, (name, payload) ∈ suiteInputs →
          ((ofUnits units).overrideAll tables).inputOf name = payload) ∧
        (¬IsBound name suiteInputs →
          ((ofUnits units).overrideAll tables).inputOf name = .placeholder)) ∧
    (r.overrideAll tables).units = r.units ∧
    (∀ name, (r.overrideAll tables).find? name = r.find? name) ∧
    ∀ query, (r.overrideAll tables).resolve? query = r.resolve? query := by
  have units : (r.overrideAll tables).units = r.units := units_overrideAll
  refine ⟨?_, ?_, units, find?_congr units, resolve?_congr units⟩
  · rintro before table after name payload rfl among last
    have map : Json.Ascending table :=
      maps table (List.mem_append_right before List.mem_cons_self)
    exact inputOf_overrideAll_of_last map among last
  · intro name unmentioned
    refine ⟨inputOf_overrideAll_of_not_isBound unmentioned, fun units => ⟨?_, ?_⟩⟩
    · intro payload known
      rw [inputOf_overrideAll_of_not_isBound unmentioned, inputOf_ofUnits_of_mem units known]
    · intro unknown
      rw [inputOf_overrideAll_of_not_isBound unmentioned,
        inputOf_ofUnits_of_not_isBound units unknown]

/-- A unit of the suite is mentioned by two tables, with different keys. Only the payload of the
second one is left. The third table mentions another unit. -/
theorem overrideAll_last_wins_sleep :
    let first : List (String × Payload) :=
      [("010.sleep", .ofPairs [("sleep_time", .int 0)]), ("w", .ofPairs [("x", .int 1)])]
    let second : List (String × Payload) := [("010.sleep", .ofPairs [("unit", .str "ms")])]
    let third : List (String × Payload) := [("110.dynamic-html", .ofPairs [])]
    let tables := [first, second, third]
    (∀ table ∈ tables, Json.Ascending table) ∧
      ((ofUnits []).overrideAll tables).inputOf "010.sleep" = .ofPairs [("unit", .str "ms")] ∧
      ((ofUnits []).overrideAll tables).inputOf "120.uploader" =
        .ofPairs [("file", .str "test.txt"), ("content", .str "hello world")] := by
  intro first second third tables
  have maps : ∀ table ∈ tables, Json.Ascending table := by
    simp only [tables, first, second, third, List.forall_mem_cons, Json.Ascending]
    decide
  obtain ⟨last, rest, -⟩ := overrideAll_last_wins (ofUnits []) maps
  refine ⟨maps, ?_, ?_⟩
  · exact last [first] second [third] "010.sleep" _ rfl List.mem_cons_self (by decide)
  · exact ((rest "120.uploader" (by decide)).2 []).1 _ (by decide +kernel)

end Registry

end SyscallProfiler
