import SyscallProfiler.Proofs.Workload.Selection

/-!
# What a query asks for

A query that is a unit's name asks for the unit of that name in the first category; any other
asks for the first unit, by category and name, whose name has the query in it. Nothing is asked
for by the empty query, and by one that stands in no name. Which category and name are found is
settled by the categories and names there are, so the order in which directories list their
entries makes no difference to it.
-/

namespace SyscallProfiler

/-! ## Parts of texts -/

theorem Text.contains_iff {part text : List Char} :
    Text.contains part text = true ↔ part <:+: text := by
  induction text with
  | nil => rw [contains, List.isEmpty_iff, List.infix_nil]
  | cons c rest ih =>
      rw [contains, Bool.or_eq_true, List.isPrefixOf_iff_prefix, ih, List.infix_cons_iff]

namespace Registry

variable {r r' : Registry} {query : String} {u v : Workload}

/-- The text of the query stands somewhere in the unit's name. -/
def Mentions (query : String) (u : Workload) : Prop :=
  ∃ before after, u.name = before ++ query ++ after

theorem matches_eq_true_iff : matches_ query u = true ↔ Mentions query u := by
  rw [matches_, Text.contains_iff]
  constructor
  · rintro ⟨before, after, split⟩
    refine ⟨String.ofList before, String.ofList after, String.toList_injective ?_⟩
    simp [← split]
  · rintro ⟨before, after, split⟩
    refine ⟨before.toList, after.toList, ?_⟩
    simp [split]

theorem mentions_of_name_eq (named : u.name = query) : Mentions query u :=
  ⟨"", "", by simp [named]⟩

/-! ## The first unit that a search finds -/

/-- Of ascending units a search finds the first that fits, and there is no other such unit. -/
theorem find?_eq_some_iff_isFirst
    (ascending : r.units.Pairwise fun u v => Precedes (key u) (key v)) {fits : Workload → Bool} :
    r.units.find? fits = some u ↔ r.IsFirst (fun v => fits v = true) u := by
  refine ⟨isFirst_of_find? ascending, ?_⟩
  rintro ⟨among, fit, first⟩
  have found : (r.units.find? fits).isSome := List.find?_isSome.mpr ⟨u, among, fit⟩
  obtain ⟨v, hv⟩ := Option.isSome_iff_exists.mp found
  obtain ⟨amongV, fitV, firstV⟩ := isFirst_of_find? ascending hv
  rcases first v amongV fitV with rfl | before
  · exact hv
  · rcases firstV u among fit with rfl | after
    · exact hv
    · exact absurd after before.asymm

theorem find?_name_eq_some_iff
    (ascending : r.units.Pairwise fun u v => Precedes (key u) (key v)) :
    r.find? query = some u ↔ r.IsFirst (fun v => v.name = query) u := by
  rw [find?, find?_eq_some_iff_isFirst ascending]
  simp only [beq_iff_eq]

theorem find?_matches_eq_some_iff
    (ascending : r.units.Pairwise fun u v => Precedes (key u) (key v)) :
    r.units.find? (matches_ query) = some u ↔ r.IsFirst (Mentions query) u := by
  rw [find?_eq_some_iff_isFirst ascending]
  simp only [matches_eq_true_iff]

theorem find?_name_eq_none_iff : r.find? query = none ↔ ∀ v ∈ r.units, v.name ≠ query := by
  rw [find?, List.find?_eq_none]
  simp only [beq_iff_eq, ne_eq]

/-! ## What is asked for -/

theorem resolve?_eq_none_iff :
    r.resolve? query = none ↔ query = "" ∨ ∀ u ∈ r.units, ¬Mentions query u := by
  by_cases empty : query = ""
  · simp [resolve?, empty]
  · have nowhere : r.units.find? (matches_ query) = none ↔ ∀ u ∈ r.units, ¬Mentions query u := by
      rw [List.find?_eq_none]
      simp only [matches_eq_true_iff]
    rw [resolve?, if_neg empty, Option.or_eq_none_iff, nowhere, find?_name_eq_none_iff]
    constructor
    · rintro ⟨-, unmentioned⟩
      exact Or.inr unmentioned
    · rintro (asked | unmentioned)
      · exact absurd asked empty
      · exact ⟨fun v hv named => unmentioned v hv (mentions_of_name_eq named), unmentioned⟩

/-- The answer to a query is the first unit of that name, or the first unit that mentions it if
there is none of that name. -/
theorem resolve?_eq_some_iff
    (ascending : r.units.Pairwise fun u v => Precedes (key u) (key v)) :
    r.resolve? query = some u ↔ query ≠ "" ∧
      (r.IsFirst (fun v => v.name = query) u ∨
        (∀ v ∈ r.units, v.name ≠ query) ∧ r.IsFirst (Mentions query) u) := by
  by_cases empty : query = ""
  · simp [resolve?, empty]
  · rw [resolve?, if_neg empty, Option.or_eq_some_iff, find?_name_eq_some_iff ascending,
      find?_name_eq_none_iff, find?_matches_eq_some_iff ascending]
    exact ⟨fun answer => ⟨empty, answer⟩, And.right⟩

/-- Of units with one name the first is that of the first category. -/
theorem precedes_iff_category (same : v.name = u.name) :
    Precedes (key u) (key v) ↔ Text.Utf8.encode u.category < Text.Utf8.encode v.category := by
  rw [Precedes, key, key, same]
  refine or_iff_left ?_
  intro later
  exact List.lt_irrefl _ later.2

theorem map_key_resolve?_congr (same : r.units.map key = r'.units.map key) (query : String) :
    (r.resolve? query).map key = (r'.resolve? query).map key := by
  -- Both searches see nothing of a unit but its name, which is a part of its key.
  have search (fits : String → Bool) (r : Registry) :
      (r.units.find? fun u => fits u.name).map key =
        (r.units.map key).find? fun k => fits k.2 := by
    rw [List.find?_map]
    rfl
  have exactly (r : Registry) : (r.find? query).map key =
      (r.units.map key).find? fun k => k.2 == query := search (· == query) r
  have partly (r : Registry) : (r.units.find? (matches_ query)).map key =
      (r.units.map key).find? fun k => Text.contains query.toList k.2.toList :=
    search (fun name => Text.contains query.toList name.toList) r
  rw [resolve?, resolve?]
  split
  · rfl
  · rw [Option.map_or, Option.map_or, exactly, exactly, partly, partly, same]

/-- Queries to the registry of a directory tree. One that is empty, or whose text stands in no
name, asks for nothing. Any other asks for the unit with exactly that name in the category that
comes first by its octets; or, if no unit has that name, for the unit that comes first, by the
octets of its category and name, of those whose name has the text in it. Its category and name do
not depend on the order in which directories list their entries. -/
theorem ofTree_resolve? (root : String) (tree : Tree) (query : String) :
    let r := ofTree root tree
    (r.resolve? query = none ↔
      query = "" ∨ ∀ u ∈ r.units, ¬∃ before after, u.name = before ++ query ++ after) ∧
    (∀ u, r.resolve? query = some u →
      (∃ v ∈ r.units, v.name = query) →
        u ∈ r.units ∧ u.name = query ∧ ∀ v ∈ r.units, v.name = query →
          v = u ∨ Text.Utf8.encode u.category < Text.Utf8.encode v.category) ∧
    (∀ u, r.resolve? query = some u →
      (∀ v ∈ r.units, v.name ≠ query) →
        u ∈ r.units ∧ (∃ before after, u.name = before ++ query ++ after) ∧
          ∀ v ∈ r.units, (∃ before after, v.name = before ++ query ++ after) →
            v = u ∨ Precedes (key u) (key v)) ∧
    ∀ tree', tree.Reordered tree' →
      (r.resolve? query).map key = ((ofTree root tree').resolve? query).map key := by
  intro r
  have ascending := ofTree_ascending root tree
  refine ⟨resolve?_eq_none_iff, fun u resolved named => ?_, fun u resolved unnamed => ?_,
    fun tree' reordered => ?_⟩
  · obtain ⟨w, hw, name⟩ := named
    obtain ⟨-, ⟨among, exact_, first⟩ | ⟨unnamed, -⟩⟩ :=
      (resolve?_eq_some_iff ascending).mp resolved
    · refine ⟨among, exact_, fun v hv nameV => (first v hv nameV).imp_right fun before => ?_⟩
      exact (precedes_iff_category (nameV.trans exact_.symm)).mp before
    · exact absurd name (unnamed w hw)
  · obtain ⟨-, ⟨among, exact_, -⟩ | ⟨-, first⟩⟩ := (resolve?_eq_some_iff ascending).mp resolved
    · exact absurd exact_ (unnamed u among)
    · exact first
  · exact map_key_resolve?_congr (keys_ofTree_eq (isEntryPoint_reordered reordered) root) query

/-- Two categories have a unit of the name, and the name asks for that of the first. -/
theorem ofTree_resolve?_namesakes :
    ∃ u, (ofTree "root" namesakes).resolve? "w" = some u ∧ key u = ("a", "w") := by
  obtain ⟨unanswered, exactly, -⟩ := ofTree_resolve? "root" namesakes "w"
  obtain ⟨v, hv, first⟩ := exists_namesake (.head _)
  obtain ⟨category, name⟩ := Prod.mk.inj first
  have answered : (ofTree "root" namesakes).resolve? "w" ≠ none := by
    intro none
    rcases unanswered.mp none with empty | unmentioned
    · exact absurd empty (by decide)
    · exact unmentioned v hv (mentions_of_name_eq name)
  obtain ⟨u, resolved⟩ := Option.ne_none_iff_exists'.mp answered
  obtain ⟨among, named, least⟩ := exactly u resolved ⟨v, hv, name⟩
  refine ⟨u, resolved, Prod.ext ?_ named⟩
  rcases least v hv name with rfl | before
  · exact category
  · rcases category_eq_of_mem_namesakes among with here | there
    · exact here
    · rw [category, there, Text.Utf8.encode_lt_iff] at before
      exact absurd before (by decide)

end Registry

end SyscallProfiler
