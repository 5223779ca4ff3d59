import SyscallProfiler.Proofs.Search
import SyscallProfiler.Proofs.Workload.Discovery

/-!
# Which of the units that were found can be asked for

A query is about names only, and the first unit that it fits is the one that it asks for. So of
several units with one name, in different categories, all but the first are out of reach: whatever
the query, it asks for the first of them or for none. The first is reached by its name.
-/

namespace SyscallProfiler.Registry

variable {r : Registry} {query : String} {u v : Workload}

/-- The unit is in the registry and has a property, and it comes before every other unit that
has it. -/
def IsFirst (r : Registry) (property : Workload → Prop) (u : Workload) : Prop :=
  u ∈ r.units ∧ property u ∧ ∀ v ∈ r.units, property v → v = u ∨ Precedes (key u) (key v)

/-- A search through ascending units finds the first unit that fits. -/
theorem isFirst_of_find? (ascending : r.units.Pairwise fun u v => Precedes (key u) (key v))
    {fits : Workload → Bool} (found : r.units.find? fits = some u) :
    r.IsFirst (fun v => fits v = true) u :=
  Search.first_of_find? ascending found

/-- The unit is in the registry, and no unit of its name comes before it. -/
def IsFirstOfName (r : Registry) (u : Workload) : Prop :=
  u ∈ r.units ∧ ∀ v ∈ r.units, v.name = u.name → ¬Precedes (key v) (key u)

/-- A search that sees nothing of a unit but its name finds the first unit of a name. -/
theorem isFirstOfName_of_find? (ascending : r.units.Pairwise fun u v => Precedes (key u) (key v))
    (fits : String → Bool) (found : (r.units.find? fun u => fits u.name) = some u) :
    r.IsFirstOfName u := by
  obtain ⟨among, fit, first⟩ := isFirst_of_find? ascending found
  refine ⟨among, fun v hv same => ?_⟩
  have fitV : fits v.name = true := by
    rw [same]
    exact fit
  rcases first v hv fitV with rfl | before
  · exact fun self => self.asymm self
  · exact before.asymm

/-- Every query asks for the first unit of a name, if it asks for any. -/
theorem isFirstOfName_of_resolve?
    (ascending : r.units.Pairwise fun u v => Precedes (key u) (key v))
    (resolved : r.resolve? query = some u) : r.IsFirstOfName u := by
  rw [resolve?] at resolved
  split at resolved
  · cases resolved
  · rcases Option.or_eq_some_iff.mp resolved with exactly | ⟨-, part⟩
    · exact isFirstOfName_of_find? ascending (· == query) exactly
    · exact isFirstOfName_of_find? ascending (fun name => Text.contains _ name.toList) part

/-- Units of one name that are both the first of it have the same category. -/
theorem IsFirstOfName.key_eq (hu : r.IsFirstOfName u) (hv : r.IsFirstOfName v)
    (same : u.name = v.name) : key u = key v := by
  have notBefore := hu.2 v hv.1 same.symm
  have notAfter := hv.2 u hu.1 same
  rw [precedes_iff, key, key] at notBefore notAfter
  rw [key, key, Prod.mk.injEq]
  grind

/-- Nothing is asked for by an empty query, and no other fits a unit without a name. -/
theorem name_ne_empty_of_resolve? (resolved : r.resolve? query = some u) : u.name ≠ "" := by
  intro nameless
  rw [resolve?] at resolved
  split at resolved
  · cases resolved
  · rename_i asked
    rcases Option.or_eq_some_iff.mp resolved with exactly | ⟨-, part⟩
    · have fit := List.find?_some exactly
      simp only [nameless, beq_iff_eq] at fit
      exact asked fit.symm
    · have fit := List.find?_some part
      rw [matches_, nameless] at fit
      exact asked (String.toList_eq_nil_iff.mp (List.isEmpty_iff.mp fit))

theorem exists_resolve?_name (among : u ∈ r.units) (named : u.name ≠ "") :
    ∃ v, r.resolve? u.name = some v ∧ v.name = u.name := by
  have known : (r.units.find? fun v => v.name == u.name).isSome :=
    List.find?_isSome.mpr ⟨u, among, beq_self_eq_true _⟩
  obtain ⟨v, first⟩ := Option.isSome_iff_exists.mp known
  refine ⟨v, ?_, beq_iff_eq.mp (List.find?_some first :)⟩
  rw [resolve?, if_neg named, find?, first, Option.some_or]

/-- A unit can be asked for exactly if it is the first of its name. -/
theorem exists_resolve?_iff (ascending : r.units.Pairwise fun u v => Precedes (key u) (key v))
    (among : u ∈ r.units) :
    (∃ query v, r.resolve? query = some v ∧ key v = key u) ↔
      u.name ≠ "" ∧ ∀ v ∈ r.units, v.name = u.name → ¬Precedes (key v) (key u) := by
  constructor
  · rintro ⟨query, v, resolved, same⟩
    have name : v.name = u.name := congrArg Prod.snd same
    obtain ⟨-, first⟩ := isFirstOfName_of_resolve? ascending resolved
    rw [name, same] at first
    exact ⟨name ▸ name_ne_empty_of_resolve? resolved, first⟩
  · rintro ⟨named, first⟩
    obtain ⟨v, resolved, name⟩ := exists_resolve?_name among named
    have firsts := isFirstOfName_of_resolve? ascending resolved
    exact ⟨u.name, v, resolved, firsts.key_eq ⟨among, first⟩ name⟩

/-- A unit that was found is the first of its name, and then its name asks for it, or it cannot
be asked for at all. In any case its name asks for a unit of that name. -/
theorem ofTree_selectable_iff (root : String) (tree : Tree) {u : Workload}
    (found : u ∈ (ofTree root tree).units) :
    let r := ofTree root tree
    (u.name ≠ "" → ∃ v, r.resolve? u.name = some v ∧ v.name = u.name) ∧
      ((∃ query v, r.resolve? query = some v ∧ key v = key u) ↔
        u.name ≠ "" ∧ ∀ v ∈ r.units, v.name = u.name → ¬Precedes (key v) (key u)) :=
  ⟨exists_resolve?_name found, exists_resolve?_iff (ofTree_ascending root tree) found⟩

/-! ## Namesakes -/

/-- A tree in which two categories hold a unit of the same name. -/
def namesakes : Tree :=
  .directory [("a", holding), ("b", holding)]
where
  /-- A category with one unit. -/
  holding : Tree :=
    .directory [("w", .directory [("native", .directory [("function.so", .leaf)])])]

theorem hasLeaf_holding : namesakes.holding.HasLeaf ["w", "native", "function.so"] :=
  .inside (.head _) (.inside (.head _) (.inside (.head _) .here))

theorem exists_namesake {category : String} (h : (category, namesakes.holding) ∈
    [("a", namesakes.holding), ("b", namesakes.holding)]) :
    ∃ u ∈ (ofTree "root" namesakes).units, key u = (category, "w") := by
  have entry : IsEntryPoint namesakes [category, "w", "native", "function.so"] :=
    ⟨.inside h hasLeaf_holding, rfl, Nat.le_refl 4⟩
  exact List.mem_map.mp ((key_mem_ofTree_iff "root" namesakes category "w").mpr ⟨_, entry⟩)

theorem category_eq_of_mem_namesakes {u : Workload} (found : u ∈ (ofTree "root" namesakes).units) :
    u.category = "a" ∨ u.category = "b" := by
  obtain ⟨rest, ⟨leaf, -, -⟩, -⟩ := liesAt_of_mem_ofTree found
  rw [namesakes, Tree.hasLeaf_directory_cons, Tree.leafAmong_cons, Tree.leafAmong_cons] at leaf
  rcases leaf with ⟨first, -⟩ | ⟨second, -⟩ | nowhere
  · exact Or.inl first.symm
  · exact Or.inr second.symm
  · exact absurd nowhere Tree.not_leafAmong_nil

/-- There are two units of the name, and the first can be asked for. -/
theorem ofTree_selectable_iff_namesakes :
    let r := ofTree "root" namesakes
    ∃ u ∈ r.units, ∃ v ∈ r.units, key u = ("a", "w") ∧ key v = ("b", "w") ∧
      ∃ query found, r.resolve? query = some found ∧ key found = key u := by
  intro r
  obtain ⟨u, among, first⟩ := exists_namesake (.head _)
  obtain ⟨v, among', second⟩ := exists_namesake (.tail _ (.head _))
  obtain ⟨category, name⟩ := Prod.mk.inj first
  refine ⟨u, among, v, among', first, second, ?_⟩
  refine (ofTree_selectable_iff "root" namesakes among).2.mpr ⟨name ▸ by decide, ?_⟩
  intro w hw same
  rw [precedes_iff, first, key, same, name]
  rcases category_eq_of_mem_namesakes hw with earlier | later
  · rw [earlier]
    decide
  · rw [later]
    decide

/-- There are two units of the name, and no query asks for the second. -/
theorem exists_unselectable :
    let r := ofTree "root" namesakes
    ∃ u ∈ r.units, ∀ query v, r.resolve? query = some v → key v ≠ key u := by
  intro r
  obtain ⟨u, among, first⟩ := exists_namesake (.head _)
  obtain ⟨v, among', second⟩ := exists_namesake (.tail _ (.head _))
  refine ⟨v, among', fun query found resolved same => ?_⟩
  obtain ⟨-, alone⟩ := (exists_resolve?_iff (ofTree_ascending "root" namesakes) among').mp
    ⟨query, found, resolved, same⟩
  refine alone u among ((congrArg Prod.snd first).trans (congrArg Prod.snd second).symm) ?_
  rw [precedes_iff, first, second]
  decide

end SyscallProfiler.Registry
