import SyscallProfiler.Proofs.Files.Path
import SyscallProfiler.Proofs.Files.Tree
import SyscallProfiler.Proofs.Text.Octets
import SyscallProfiler.Workload.Discovery

/-!
# What is found in a directory tree

The units that are found are exactly those that the tree holds: each entry point belongs to a
unit, and each unit has an entry point. They are in strictly ascending order of category and
name, so nothing but the choice among several entry points of one unit depends on the order in
which directories list their entries.
-/

namespace SyscallProfiler

namespace Registry

/-! ## Entry points -/

/-- The names lead to a leaf that may hold the code of a unit. -/
structure IsEntryPoint (tree : Tree) (names : List String) : Prop where
  leaf : tree.HasLeaf names
  named : names.getLast? = some codeFile
  deep : 4 ≤ names.length

/-- The unit lies at an entry point of its category and name, with its input beside it. -/
def LiesAt (root : String) (tree : Tree) (u : Workload) (rest : List String) : Prop :=
  let names := u.category :: u.name :: rest
  IsEntryPoint tree names ∧ u.codePath = Path.descend root names ∧
    u.inputPath = Path.descend root (names.dropLast ++ [inputFile])

theorem inputPath_descend (root : String) {names : List String}
    (h : names.getLast? = some codeFile) :
    Path.withFileName (Path.descend root names) inputFile =
      Path.descend root (names.dropLast ++ [inputFile]) := by
  obtain ⟨before, rfl⟩ := List.getLast?_eq_some_iff.mp h
  rw [List.dropLast_concat, Path.descend_concat, Path.descend_concat,
    Path.withFileName_join _ (by decide) (by decide) (by decide)]

theorem unitAt?_eq_some_iff {path : String} {names : List String} {u : Workload} :
    unitAt? path names = some u ↔
      4 ≤ names.length ∧ (∃ rest, names = u.category :: u.name :: rest) ∧ u.codePath = path ∧
        u.inputPath = Path.withFileName path inputFile := by
  obtain ⟨name, category, codePath, inputPath⟩ := u
  match names with
  | [] | [_] | [_, _] | [_, _, _] => simp [unitAt?]
  | category' :: name' :: third :: fourth :: rest =>
      have deep : 4 ≤ (category' :: name' :: third :: fourth :: rest).length := by simp
      simp only [unitAt?, Option.some.injEq, Workload.mk.injEq, deep, List.cons.injEq, true_and]
      constructor
      · rintro ⟨rfl, rfl, rfl, rfl⟩
        exact ⟨⟨_, rfl, rfl, rfl⟩, rfl, rfl⟩
      · rintro ⟨⟨_, rfl, rfl, -⟩, rfl, rfl⟩
        exact ⟨rfl, rfl, rfl, rfl⟩

/-! ## The walk -/

/-- The walk that has come to `path` by `names` finds a unit further down. -/
def Finds (path : String) (names : List String) (u : Workload) (below : List String) : Prop :=
  (names ++ below).getLast? = some codeFile ∧
    unitAt? (Path.descend path below) (names ++ below) = some u

theorem finds_cons {path name : String} {names below : List String} {u : Workload} :
    Finds (Path.join path name) (names ++ [name]) u below ↔ Finds path names u (name :: below) := by
  rw [Finds, Finds, List.append_assoc, List.singleton_append]
  rfl

mutual

/-- The walk finds what the leaves below it make it find. The induction is on the tree, while
the path and the names that have led there grow. -/
theorem mem_unitsIn {u : Workload} (path : String) (names : List String) : (tree : Tree) →
    (u ∈ unitsIn path names tree ↔ ∃ below, tree.HasLeaf below ∧ Finds path names u below)
  | .leaf => by
      simp only [unitsIn, Tree.hasLeaf_leaf, exists_eq_left, Finds, List.append_nil]
      split
      · rename_i named
        simp [named, Path.descend]
      · rename_i unnamed
        simp [unnamed]
  | .directory entries => by
      rw [unitsIn, mem_unitsInEntries path names entries]
      constructor
      · rintro ⟨name, below, leaf, finds⟩
        exact ⟨name :: below, Tree.hasLeaf_directory_cons.mpr leaf, finds⟩
      · rintro ⟨_, @⟨⟩, finds⟩
        exact ⟨_, _, ⟨_, ‹_›, ‹_›⟩, finds⟩

theorem mem_unitsInEntries {u : Workload} (path : String) (names : List String) :
    (entries : List (String × Tree)) →
    (u ∈ unitsInEntries path names entries ↔
      ∃ name below, Tree.LeafAmong entries name below ∧ Finds path names u (name :: below))
  | [] => by
      simp [unitsInEntries, Tree.not_leafAmong_nil]
  | (key, tree) :: rest => by
      rw [unitsInEntries, List.mem_append, mem_unitsIn (Path.join path key) (names ++ [key]) tree,
        mem_unitsInEntries path names rest]
      simp only [finds_cons, Tree.leafAmong_cons]
      constructor
      · rintro (⟨below, leaf, finds⟩ | ⟨name, below, leaf, finds⟩)
        · exact ⟨key, below, Or.inl ⟨rfl, leaf⟩, finds⟩
        · exact ⟨name, below, Or.inr leaf, finds⟩
      · rintro ⟨name, below, ⟨rfl, leaf⟩ | leaf, finds⟩
        · exact Or.inl ⟨below, leaf, finds⟩
        · exact Or.inr ⟨name, below, leaf, finds⟩

end

/-- Found is what lies in the tree, and nothing else. -/
theorem mem_unitsIn_iff {root : String} {tree : Tree} {u : Workload} :
    u ∈ unitsIn root [] tree ↔ ∃ rest, LiesAt root tree u rest := by
  rw [mem_unitsIn]
  constructor
  · rintro ⟨names, leaf, named, found⟩
    rw [List.nil_append] at named found
    obtain ⟨deep, ⟨rest, rfl⟩, code, input⟩ := unitAt?_eq_some_iff.mp found
    exact ⟨rest, ⟨leaf, named, deep⟩, code, input.trans (inputPath_descend root named)⟩
  · rintro ⟨rest, ⟨leaf, named, deep⟩, code, input⟩
    refine ⟨_, leaf, named, unitAt?_eq_some_iff.mpr ⟨deep, ⟨rest, rfl⟩, code, ?_⟩⟩
    exact input.trans (inputPath_descend root named).symm

/-! ## The order of units -/

/-- What tells a unit from all others: its category and its name. -/
def key (u : Workload) : String × String := (u.category, u.name)

/-- The octets of the category come first, or those of the name in the same category. -/
def Precedes (k l : String × String) : Prop :=
  Text.Utf8.encode k.1 < Text.Utf8.encode l.1 ∨
    k.1 = l.1 ∧ Text.Utf8.encode k.2 < Text.Utf8.encode l.2

theorem precedes_iff {k l : String × String} :
    Precedes k l ↔ k.1 < l.1 ∨ k.1 = l.1 ∧ k.2 < l.2 := by
  rw [Precedes, Text.Utf8.encode_lt_iff, Text.Utf8.encode_lt_iff]

theorem Precedes.trans {k l m : String × String} (h : Precedes k l) (h' : Precedes l m) :
    Precedes k m := by
  rw [precedes_iff] at *
  grind

theorem Precedes.asymm {k l : String × String} (h : Precedes k l) : ¬Precedes l k := by
  rw [precedes_iff] at *
  grind

theorem notAfter_iff {u v : Workload} :
    notAfter u v = true ↔ key u = key v ∨ Precedes (key u) (key v) := by
  rw [precedes_iff, key, key, Prod.mk.injEq, notAfter]
  split <;> grind

theorem notAfter_trans (u v w : Workload) (h : notAfter u v = true) (h' : notAfter v w = true) :
    notAfter u w = true := by
  rw [notAfter_iff] at *
  rcases h with same | before
  · rwa [same]
  · rcases h' with same' | before'
    · exact Or.inr (same' ▸ before)
    · exact Or.inr (before.trans before')

theorem notAfter_total (u v : Workload) : (notAfter u v || notAfter v u) = true := by
  rw [Bool.or_eq_true, notAfter_iff, notAfter_iff, precedes_iff, precedes_iff, key, key,
    Prod.mk.injEq, Prod.mk.injEq]
  grind

/-- Lists in strictly ascending order of keys are the same if they have the same members. -/
theorem eq_of_ascending {α : Type} {f : α → String × String} {xs ys : List α}
    (hxs : xs.Pairwise fun x y => Precedes (f x) (f y))
    (hys : ys.Pairwise fun x y => Precedes (f x) (f y)) (same : ∀ x, x ∈ xs ↔ x ∈ ys) :
    xs = ys := by
  have distinct {zs : List α} (h : zs.Pairwise fun x y => Precedes (f x) (f y)) : zs.Nodup :=
    h.imp fun before e => (e ▸ before).asymm (e ▸ before)
  refine List.Perm.eq_of_pairwise (fun x y _ _ before after => ?_) hxs hys
    ((List.perm_ext_iff_of_nodup (distinct hxs) (distinct hys)).mpr same)
  exact absurd after before.asymm

/-! ## Repeated units -/

theorem dropRepeats_sublist (units : List Workload) : (dropRepeats units).Sublist units := by
  fun_induction dropRepeats units with
  | case1 => exact .slnil
  | case2 u => exact .refl _
  | case3 u v rest same ih => exact ih.trans ((List.sublist_cons_self v rest).cons_cons u)
  | case4 u v rest other ih => exact ih.cons_cons u

theorem key_mem_dropRepeats (units : List Workload) :
    ∀ k, k ∈ (dropRepeats units).map key ↔ k ∈ units.map key := by
  intro k
  fun_induction dropRepeats units with
  | case1 => rfl
  | case2 u => rfl
  | case3 u v rest same ih =>
      have keys : key u = key v := Prod.ext same.1 same.2
      simp only [ih, List.map_cons, List.mem_cons, keys, or_self_left]
  | case4 u v rest other ih =>
      rw [List.map_cons, List.mem_cons, ih, ← List.mem_cons, ← List.map_cons]

/-- Of ascending units each key is kept once. -/
theorem dropRepeats_ascending {units : List Workload} (sorted : units.Pairwise (notAfter · ·)) :
    (dropRepeats units).Pairwise fun u v => Precedes (key u) (key v) := by
  fun_induction dropRepeats units with
  | case1 => exact .nil
  | case2 u => exact List.pairwise_singleton ..
  | case3 u v rest same ih =>
      exact ih (sorted.sublist ((List.sublist_cons_self v rest).cons_cons u))
  | case4 u v rest other ih =>
      obtain ⟨first, later⟩ := List.pairwise_cons.mp sorted
      refine List.pairwise_cons.mpr ⟨fun w kept => ?_, ih later⟩
      have before : Precedes (key u) (key v) :=
        (notAfter_iff.mp (first v List.mem_cons_self)).resolve_left fun e =>
          other (Prod.mk.inj e)
      rcases List.mem_cons.mp ((dropRepeats_sublist _).mem kept) with rfl | after
      · exact before
      · rcases notAfter_iff.mp ((List.pairwise_cons.mp later).1 w after) with e | between
        · exact e ▸ before
        · exact before.trans between

/-! ## The registry of a tree -/

variable {root : String} {tree : Tree} {u : Workload}

theorem ofTree_units (root : String) (tree : Tree) :
    (ofTree root tree).units = dropRepeats ((unitsIn root [] tree).mergeSort notAfter) := by
  cases tree with
  | leaf => rw [unitsIn, if_neg nofun, List.mergeSort_nil, dropRepeats]; rfl
  | directory entries => rfl

theorem ofTree_ascending (root : String) (tree : Tree) :
    (ofTree root tree).units.Pairwise fun u v => Precedes (key u) (key v) := by
  rw [ofTree_units]
  exact dropRepeats_ascending (List.pairwise_mergeSort notAfter_trans notAfter_total _)

theorem liesAt_of_mem_ofTree (h : u ∈ (ofTree root tree).units) :
    ∃ rest, LiesAt root tree u rest := by
  rw [ofTree_units] at h
  exact mem_unitsIn_iff.mp (List.mem_mergeSort.mp ((dropRepeats_sublist _).mem h))

theorem slash_notMem_name_of_mem_ofTree (plain : tree.IsPlain)
    (h : u ∈ (ofTree root tree).units) : '/' ∉ u.name.toList := by
  obtain ⟨rest, entry, -⟩ := liesAt_of_mem_ofTree h
  exact plain _ entry.leaf u.name (.tail _ (.head rest))

theorem key_mem_ofTree_iff (root : String) (tree : Tree) (category name : String) :
    (category, name) ∈ (ofTree root tree).units.map key ↔
      ∃ rest, IsEntryPoint tree (category :: name :: rest) := by
  rw [ofTree_units, key_mem_dropRepeats]
  constructor
  · intro h
    obtain ⟨u, found, same⟩ := List.mem_map.mp h
    obtain ⟨rfl, rfl⟩ := Prod.mk.inj same
    obtain ⟨rest, entry, -⟩ := mem_unitsIn_iff.mp (List.mem_mergeSort.mp found)
    exact ⟨rest, entry⟩
  · rintro ⟨rest, entry⟩
    let u : Workload :=
      { category, name
        codePath := Path.descend root (category :: name :: rest)
        inputPath := Path.descend root ((category :: name :: rest).dropLast ++ [inputFile]) }
    have found : u ∈ unitsIn root [] tree := mem_unitsIn_iff.mpr ⟨rest, entry, rfl, rfl⟩
    exact List.mem_map.mpr ⟨u, List.mem_mergeSort.mpr found, rfl⟩

/-- The order in which directories list their entries makes no difference to what is an entry
point. -/
theorem isEntryPoint_reordered {tree' : Tree} (h : tree.Reordered tree') (names : List String) :
    IsEntryPoint tree names ↔ IsEntryPoint tree' names := by
  constructor
  · rintro ⟨leaf, named, deep⟩
    exact ⟨(h.hasLeaf_iff names).mp leaf, named, deep⟩
  · rintro ⟨leaf, named, deep⟩
    exact ⟨(h.hasLeaf_iff names).mpr leaf, named, deep⟩

/-- No category and name have more than one entry point. -/
def IsUnambiguous (tree : Tree) : Prop :=
  ∀ category name rest rest', IsEntryPoint tree (category :: name :: rest) →
    IsEntryPoint tree (category :: name :: rest') → rest = rest'

/-- Units that lie in an unambiguous tree are told apart by their keys. -/
theorem LiesAt.eq_of_key_eq (unambiguous : IsUnambiguous tree) {v : Workload}
    {rest rest' : List String} (hu : LiesAt root tree u rest) (hv : LiesAt root tree v rest')
    (same : key u = key v) : u = v := by
  obtain ⟨category, name⟩ := Prod.mk.inj same
  rw [LiesAt, ← category, ← name] at hv
  obtain ⟨entry, code, input⟩ := hu
  obtain ⟨entry', code', input'⟩ := hv
  obtain rfl := unambiguous _ _ _ _ entry entry'
  cases u
  cases v
  exact Workload.mk.injEq .. ▸ ⟨name, category, code.trans code'.symm, input.trans input'.symm⟩

section SameEntryPoints

variable {tree' : Tree} (h : ∀ names, IsEntryPoint tree names ↔ IsEntryPoint tree' names)

include h

theorem IsUnambiguous.transfer (unambiguous : IsUnambiguous tree) : IsUnambiguous tree' := by
  intro category name rest rest' entry entry'
  exact unambiguous category name rest rest' ((h _).mpr entry) ((h _).mpr entry')

theorem keys_ofTree_eq (root : String) :
    (ofTree root tree).units.map key = (ofTree root tree').units.map key := by
  refine eq_of_ascending (f := id) (List.pairwise_map.mpr (ofTree_ascending root tree))
    (List.pairwise_map.mpr (ofTree_ascending root tree')) ?_
  rintro ⟨category, name⟩
  rw [key_mem_ofTree_iff, key_mem_ofTree_iff]
  exact exists_congr fun rest => h _

theorem mem_ofTree_of_mem (unambiguous : IsUnambiguous tree)
    (found : u ∈ (ofTree root tree).units) : u ∈ (ofTree root tree').units := by
  have kept : key u ∈ (ofTree root tree').units.map key :=
    keys_ofTree_eq h root ▸ List.mem_map_of_mem found
  obtain ⟨v, found', same⟩ := List.mem_map.mp kept
  obtain ⟨rest, lies⟩ := liesAt_of_mem_ofTree found
  obtain ⟨rest', entry, paths⟩ := liesAt_of_mem_ofTree found'
  have lies' : LiesAt root tree v rest' := ⟨(h _).mpr entry, paths⟩
  rwa [lies.eq_of_key_eq unambiguous lies' same.symm]

theorem ofTree_units_eq (unambiguous : IsUnambiguous tree) :
    (ofTree root tree).units = (ofTree root tree').units :=
  eq_of_ascending (ofTree_ascending root tree) (ofTree_ascending root tree') fun _ =>
    ⟨mem_ofTree_of_mem h unambiguous,
      mem_ofTree_of_mem (fun names => (h names).symm) (unambiguous.transfer h)⟩

end SameEntryPoints

/-- The walk over a directory tree is exact. The units ascend strictly by the octets of category
and name, and have the categories and names of exactly the entry points of the tree; each of
them lies at such an entry point, with its input beside it. So the categories and names do not
depend on the order in which directories list their entries, and the units do not either if
none of them has more than one entry point. A root that is no directory has no units. -/
theorem ofTree_exact (root : String) (tree : Tree) :
    let units := (ofTree root tree).units
    (units.map key).Pairwise Precedes ∧
      (∀ category name, (category, name) ∈ units.map key ↔
        ∃ rest, IsEntryPoint tree (category :: name :: rest)) ∧
      (∀ u ∈ units, ∃ rest, LiesAt root tree u rest) ∧
      (∀ tree', tree.Reordered tree' →
        let units' := (ofTree root tree').units
        units.map key = units'.map key ∧ (IsUnambiguous tree → units = units')) ∧
      ∀ files cwd, (∀ location entries, files.find cwd root ≠ .ok (location, .directory entries)) →
        (ofDirectory files cwd root).units = [] := by
  intro units
  refine ⟨List.pairwise_map.mpr (ofTree_ascending root tree), key_mem_ofTree_iff root tree,
    fun u => liesAt_of_mem_ofTree, fun tree' reordered => ?_, fun files cwd nowhere => ?_⟩
  · have h := isEntryPoint_reordered reordered
    exact ⟨keys_ofTree_eq h root, ofTree_units_eq h⟩
  · rw [ofDirectory, Files.tree]
    split
    · exact absurd ‹_› (nowhere _ _)
    · rfl

end Registry

end SyscallProfiler
