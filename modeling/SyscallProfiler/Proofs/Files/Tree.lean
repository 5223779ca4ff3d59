import SyscallProfiler.Files.Tree

/-!
# Leaves of directory trees

What a tree holds is the names on the way from its root to each of its leaves. Directories list
their entries in no particular order, and two trees that differ in nothing else hold the same.
-/

namespace SyscallProfiler.Tree

/-! ## Ways to leaves -/

/-- The names lead from the root of a tree to a leaf. -/
inductive HasLeaf : Tree → List String → Prop where
  | here : HasLeaf .leaf []
  | inside {entries : List (String × Tree)} {name : String} {tree : Tree} {names : List String}
      (entry : (name, tree) ∈ entries) (rest : HasLeaf tree names) :
      HasLeaf (.directory entries) (name :: names)

/-- The names lead to a leaf through the entries of a directory. -/
def LeafAmong (entries : List (String × Tree)) (name : String) (names : List String) : Prop :=
  ∃ tree, (name, tree) ∈ entries ∧ HasLeaf tree names

section HasLeaf

variable {entries : List (String × Tree)} {name key : String} {names : List String} {tree : Tree}

theorem hasLeaf_leaf : HasLeaf .leaf names ↔ names = [] := by
  constructor
  · rintro ⟨⟩
    rfl
  · rintro rfl
    exact .here

theorem hasLeaf_directory_cons :
    HasLeaf (.directory entries) (name :: names) ↔ LeafAmong entries name names := by
  constructor
  · rintro ⟨⟩
    exact ⟨_, ‹_›, ‹_›⟩
  · rintro ⟨tree, entry, rest⟩
    exact .inside entry rest

theorem not_hasLeaf_directory_nil : ¬HasLeaf (.directory entries) [] := nofun

theorem not_leafAmong_nil : ¬LeafAmong [] name names := nofun

theorem leafAmong_cons :
    LeafAmong ((key, tree) :: entries) name names ↔
      key = name ∧ HasLeaf tree names ∨ LeafAmong entries name names := by
  constructor
  · rintro ⟨below, entry, rest⟩
    rcases List.mem_cons.mp entry with same | later
    · cases same
      exact Or.inl ⟨rfl, rest⟩
    · exact Or.inr ⟨below, later, rest⟩
  · rintro (⟨rfl, rest⟩ | ⟨below, entry, rest⟩)
    · exact ⟨tree, List.mem_cons_self, rest⟩
    · exact ⟨below, List.mem_cons_of_mem _ entry, rest⟩

end HasLeaf

/-- No name on the way to a leaf has a slash in it. -/
def IsPlain (tree : Tree) : Prop :=
  ∀ names, tree.HasLeaf names → ∀ name ∈ names, '/' ∉ name.toList

theorem isPlain_leaf : IsPlain .leaf := by
  intro names leaf
  rw [hasLeaf_leaf.mp leaf]
  exact fun name among => absurd among List.not_mem_nil

theorem isPlain_directory {entries : List (String × Tree)}
    (plain : ∀ entry ∈ entries, '/' ∉ entry.1.toList ∧ entry.2.IsPlain) :
    IsPlain (.directory entries) := by
  rintro _ (_ | ⟨among, rest⟩)
  exact List.forall_mem_cons.mpr ⟨(plain _ among).1, (plain _ among).2 _ rest⟩

/-! ## The order of entries -/

mutual

/-- The trees differ in the order in which their directories list their entries, if at all. -/
inductive Reordered : Tree → Tree → Prop where
  | leaf : Reordered .leaf .leaf
  | directory {entries entries' : List (String × Tree)} (h : EntriesReordered entries entries') :
      Reordered (.directory entries) (.directory entries')

/-- `Reordered` for the entries of a directory. -/
inductive EntriesReordered : List (String × Tree) → List (String × Tree) → Prop where
  | nil : EntriesReordered [] []
  | cons {name : String} {tree tree' : Tree} {entries entries' : List (String × Tree)}
      (below : Reordered tree tree') (rest : EntriesReordered entries entries') :
      EntriesReordered ((name, tree) :: entries) ((name, tree') :: entries')
  | swap (first second : String × Tree) (entries : List (String × Tree)) :
      EntriesReordered (first :: second :: entries) (second :: first :: entries)
  | trans {entries mid entries' : List (String × Tree)} (before : EntriesReordered entries mid)
      (after : EntriesReordered mid entries') : EntriesReordered entries entries'

end

mutual

/-- The order of entries makes no difference to what a tree holds. -/
theorem Reordered.hasLeaf_iff {tree tree' : Tree} :
    Reordered tree tree' → ∀ names, HasLeaf tree names ↔ HasLeaf tree' names
  | .leaf, _ => Iff.rfl
  | .directory _, [] => iff_of_false not_hasLeaf_directory_nil not_hasLeaf_directory_nil
  | .directory h, name :: names => by
      rw [hasLeaf_directory_cons, hasLeaf_directory_cons]
      exact h.leafAmong_iff name names

theorem EntriesReordered.leafAmong_iff {entries entries' : List (String × Tree)} :
    EntriesReordered entries entries' →
      ∀ name names, LeafAmong entries name names ↔ LeafAmong entries' name names
  | .nil, _, _ => Iff.rfl
  | .cons below rest, name, names => by
      rw [leafAmong_cons, leafAmong_cons, below.hasLeaf_iff names, rest.leafAmong_iff name names]
  | .swap (_, _) (_, _) _, _, _ => by
      simp only [leafAmong_cons]
      exact or_left_comm
  | .trans before after, name, names =>
      (before.leafAmong_iff name names).trans (after.leafAmong_iff name names)

end

end SyscallProfiler.Tree
