import SyscallProfiler.Proofs.Files.Lookup

/-!
# Creating files

A file that is created is there afterwards, and creating it takes nothing away: every path that led
to something leads to it still. Only the directory that has the new entry is another one, so a
look-up that comes through it goes on as before.
-/

namespace SyscallProfiler

/-! ## Entries and locations -/

namespace Node

theorem child?_setEntry (name other : String) (node : Node) (entries : List (String × Node)) :
    (directory (setEntry name (some node) entries)).child? other =
      if name = other then some node else (directory entries).child? other := by
  induction entries with
  | nil => by_cases same : name = other <;> simp [setEntry, child?, same]
  | cons entry rest ih =>
      obtain ⟨k, n⟩ := entry
      simp only [child?] at ih ⊢
      rw [setEntry]
      by_cases here : k = name
      · by_cases same : name = other <;> simp [here, same]
      · by_cases same : k = other
        · subst same
          simp [here, Ne.symm here]
        · simp [here, same, ih]

theorem eq_directory_of_child? {node child : Node} {name : String}
    (h : node.child? name = some child) : ∃ entries, node = directory entries := by
  cases node with
  | directory entries => exact ⟨entries, rfl⟩
  | _ => cases h

theorem alter_cons {change : Option Node → Option Node} {name : String} {below : Location}
    {entries : List (String × Node)} {child : Node} (further : below ≠ [])
    (h : (directory entries).child? name = some child) :
    (directory entries).alter change (name :: below) =
      directory (setEntry name (some (child.alter change below)) entries) := by
  rw [alter, h]
  exact fun e => absurd e further

theorem at?_append (node : Node) (here below : Location) :
    node.at? (here ++ below) = (node.at? here).bind fun n => n.at? below := by
  induction here generalizing node with
  | nil => rfl
  | cons name rest ih =>
      rw [List.cons_append, at?, at?]
      cases node.child? name with
      | none => rfl
      | some child => exact ih child

/-- What is at a location may become another directory and nothing else. -/
def Grows (old new : Node) : Prop :=
  ∀ location node, old.at? location = some node →
    ∃ node', new.at? location = some node' ∧
      (node' = node ∨ node.isDirectory = true ∧ node'.isDirectory = true)

/-- A new entry of a directory is there, and everything else is still there. The induction is on
the way to the directory. -/
theorem alter_vacant (new : Node) {name : String} {here : Location} {node : Node}
    {entries : List (String × Node)} (there : node.at? here = some (directory entries))
    (vacant : (directory entries).child? name = none) :
    (node.alter (fun _ => some new) (here ++ [name])).at? (here ++ [name]) = some new ∧
      Grows node (node.alter (fun _ => some new) (here ++ [name])) := by
  induction here generalizing node with
  | nil =>
      cases there
      have altered : (directory entries).alter (fun _ => some new) [name] =
          directory (setEntry name (some new) entries) := rfl
      rw [List.nil_append, altered]
      constructor
      · rw [at?, child?_setEntry, if_pos rfl]
        rfl
      · intro location found h
        cases location with
        | nil =>
            cases h
            exact ⟨_, rfl, .inr ⟨rfl, rfl⟩⟩
        | cons other rest =>
            have apart : name ≠ other := by
              rintro rfl
              rw [at?, vacant] at h
              cases h
            refine ⟨found, ?_, .inl rfl⟩
            rwa [at?, child?_setEntry, if_neg apart]
  | cons step rest ih =>
      rw [at?, Option.bind_eq_some_iff] at there
      obtain ⟨child, hchild, there⟩ := there
      obtain ⟨outer, rfl⟩ := eq_directory_of_child? hchild
      obtain ⟨placed, grows⟩ := ih there
      have altered : (directory outer).alter (fun _ => some new) (step :: rest ++ [name]) =
          directory (setEntry step (some (child.alter (fun _ => some new) (rest ++ [name])))
            outer) :=
        alter_cons (by simp) hchild
      rw [altered]
      constructor
      · rw [List.cons_append, at?, child?_setEntry, if_pos rfl]
        exact placed
      · intro location found h
        cases location with
        | nil =>
            cases h
            exact ⟨_, rfl, .inr ⟨rfl, rfl⟩⟩
        | cons other below =>
            rw [at?, child?_setEntry]
            rw [at?] at h
            split
            · rename_i same
              subst same
              rw [hchild] at h
              exact grows below found h
            · exact ⟨found, h, .inl rfl⟩

end Node

namespace Files

variable {files new : Files} {links : Nat} {here location : Location} {todo : List String}
  {name path : String} {node : Node} {cwd : Location}

/-- Whether there is a directory at a location. -/
def HasDirectory (files : Files) (here : Location) : Prop :=
  ∃ entries, files.at? here = some (.directory entries)

theorem HasDirectory.above {below : Location} (h : files.HasDirectory (here ++ below)) :
    files.HasDirectory here := by
  obtain ⟨entries, h⟩ := h
  rw [at?, Node.at?_append, Option.bind_eq_some_iff] at h
  obtain ⟨node, hnode, h⟩ := h
  cases below with
  | nil =>
      cases h
      exact ⟨entries, hnode⟩
  | cons step rest =>
      obtain ⟨child, hchild, -⟩ := Option.bind_eq_some_iff.mp h
      obtain ⟨outer, rfl⟩ := Node.eq_directory_of_child? hchild
      exact ⟨outer, hnode⟩

theorem HasDirectory.dropLast (h : files.HasDirectory here) : files.HasDirectory here.dropLast := by
  rcases List.eq_nil_or_concat here with rfl | ⟨front, last, rfl⟩
  · exact h
  · rw [List.concat_eq_append] at h ⊢
    rw [List.dropLast_concat]
    exact h.above

/-- A look-up begins at the root or where it is made from. -/
theorem HasDirectory.start (h : files.HasDirectory here) (path : String) :
    files.HasDirectory (if Path.isAbsolute path then [] else here) := by
  split
  · have below : files.HasDirectory ([] ++ here) := h
    exact below.above
  · exact h

/-! ## Look-ups -/

/-- A look-up that comes to nothing comes to a name that a directory does not have. -/
theorem walk_vacant (start : files.HasDirectory here)
    (h : files.walk links here todo = .ok (.vacant location name)) :
    files.HasDirectory location ∧ files.at? (location ++ [name]) = none := by
  fun_induction walk files links here todo with
  | case3 links here part rest idle ih => exact ih start h
  | case4 links here rest step ih => exact ih start.dropLast h
  | case6 links here part rest step notUp short vacant last =>
      cases h
      exact ⟨start, vacant⟩
  | case10 here part rest step notUp short target there links begin_ =>
      rename_i ih
      exact ih (start.start target) h
  | case11 links here part rest step notUp short below there ih => exact ih ⟨_, there⟩ h
  | _ => cases h

/-- A look-up ends with a name that is neither a link nor a directory. -/
theorem walk_last {part : String} {rest : List String} (step : ¬(part = "" ∨ part = "."))
    (notUp : part ≠ "..") (short : ¬Path.isLongPart part = true) (last : rest.isEmpty = true)
    (notLink : ∀ target, node ≠ .link target) (notDirectory : ∀ entries, node ≠ .directory entries)
    (there : files.at? (here ++ [part]) = some node) :
    files.walk links here (part :: rest) = .ok (.found (here ++ [part]) node) := by
  rw [walk, if_neg step, if_neg notUp, if_neg short, there]
  cases node with
  | link target => exact absurd rfl (notLink target)
  | directory entries => exact absurd rfl (notDirectory entries)
  | _ => simp only [if_pos last]

section Growing

variable (grows : files.root.Grows new.root)
include grows

theorem HasDirectory.grow (h : files.HasDirectory here) : new.HasDirectory here := by
  obtain ⟨entries, h⟩ := h
  obtain ⟨node, there, rfl | ⟨-, isDirectory⟩⟩ := grows _ _ h
  · exact ⟨entries, there⟩
  · cases node with
    | directory entries => exact ⟨entries, there⟩
    | _ => cases isDirectory

theorem at?_grow (plain : node.isDirectory = false) (h : files.at? location = some node) :
    new.at? location = some node := by
  obtain ⟨node', there, rfl | ⟨isDirectory, -⟩⟩ := grows _ _ h
  · exact there
  · rw [plain] at isDirectory
    cases isDirectory

/-- What a look-up comes to is still there when the files have grown. -/
theorem walk_grow (h : files.walk links here todo = .ok (.found location node)) :
    ∃ node', new.walk links here todo = .ok (.found location node') := by
  fun_induction walk files links here todo with
  | case1 links here there =>
      obtain ⟨node', there', -⟩ := grows _ _ ‹_›
      cases h
      exact ⟨node', by rw [walk, at?, there']⟩
  | case3 links here part rest idle ih =>
      rw [walk, if_pos idle]
      exact ih h
  | case4 links here rest step ih =>
      rw [walk, if_neg step, if_pos rfl]
      exact ih h
  | case10 here part rest step notUp short target there links begin_ =>
      rename_i ih
      rw [walk, if_neg step, if_neg notUp, if_neg short, at?_grow grows rfl there]
      exact ih h
  | case11 links here part rest step notUp short below there ih =>
      obtain ⟨entries, there'⟩ := HasDirectory.grow grows ⟨below, there⟩
      rw [walk, if_neg step, if_neg notUp, if_neg short, there']
      exact ih h
  | case12 links here part rest step notUp short node' notLink notDirectory there last =>
      have plain : node'.isDirectory = false := by
        cases node' with
        | directory entries => exact absurd rfl (notDirectory entries)
        | _ => rfl
      have still := at?_grow grows plain there
      cases h
      exact ⟨_, walk_last step notUp short last notLink notDirectory still⟩
  | _ => cases h

/-- A look-up that came to nothing comes to the file that has been put there. -/
theorem walk_vacant_grow {content : List UInt8} {executable : Bool}
    (placed : new.at? (location ++ [name]) = some (.file content executable))
    (h : files.walk links here todo = .ok (.vacant location name)) :
    new.walk links here todo = .ok (.found (location ++ [name]) (.file content executable)) := by
  fun_induction walk files links here todo with
  | case3 links here part rest idle ih =>
      rw [walk, if_pos idle]
      exact ih h
  | case4 links here rest step ih =>
      rw [walk, if_neg step, if_pos rfl]
      exact ih h
  | case6 links here part rest step notUp short vacant last =>
      cases h
      refine walk_last step notUp short last ?_ ?_ placed
      · rintro _ ⟨⟩
      · rintro _ ⟨⟩
  | case10 here part rest step notUp short target there links begin_ =>
      rename_i ih
      rw [walk, if_neg step, if_neg notUp, if_neg short, at?_grow grows rfl there]
      exact ih h
  | case11 links here part rest step notUp short below there ih =>
      obtain ⟨entries, there'⟩ := HasDirectory.grow grows ⟨below, there⟩
      rw [walk, if_neg step, if_neg notUp, if_neg short, there']
      exact ih h
  | _ => cases h

end Growing

/-! ## Paths -/

theorem place_eq_ok_iff {place : Place} :
    files.place cwd path = .ok place ↔
      (¬Path.hasNul path = true ∧ path ≠ "" ∧ ¬Path.isLong path = true) ∧
        files.walk maxLinks (if Path.isAbsolute path then [] else cwd) (Path.components path) =
          .ok place := by
  rw [Files.place]
  by_cases nul : Path.hasNul path = true
  · simp [nul]
  · by_cases empty : path = ""
    · rw [if_neg nul, if_pos empty]
      simp [empty]
    · by_cases long : Path.isLong path = true
      · simp [nul, empty, long]
      · simp [nul, empty, long]

theorem has_iff_place : files.has cwd path = true ↔
    ∃ location node, files.place cwd path = .ok (.found location node) := by
  rw [has, find]
  cases files.place cwd path with
  | error e => cases e <;> simp
  | ok place => cases place <;> simp

theorem has_grow (grows : files.root.Grows new.root) (h : files.has cwd path = true) :
    new.has cwd path = true := by
  obtain ⟨location, node, h⟩ := has_iff_place.mp h
  obtain ⟨named, walked⟩ := place_eq_ok_iff.mp h
  obtain ⟨node', walked'⟩ := walk_grow grows walked
  exact has_iff_place.mpr ⟨location, node', place_eq_ok_iff.mpr ⟨named, walked'⟩⟩

/-- What is created is there, and nothing that was there has gone. -/
theorem create_spec {created : Location} (start : files.HasDirectory cwd)
    (h : files.create cwd path = .ok (created, new)) :
    new.has cwd path = true ∧ files.root.Grows new.root := by
  rw [create] at h
  cases placed : files.place cwd path with
  | error e => rw [placed] at h; cases h
  | ok place =>
      rw [placed] at h
      cases place with
      | found at_ node =>
          have same : new = files := by
            cases node <;> cases h <;> rfl
          subst same
          exact ⟨has_iff_place.mpr ⟨_, _, placed⟩, fun _ node there => ⟨node, there, .inl rfl⟩⟩
      | vacant directory name =>
          cases h
          obtain ⟨named, walked⟩ := place_eq_ok_iff.mp placed
          obtain ⟨⟨entries, there⟩, vacant⟩ := walk_vacant (start.start path) walked
          rw [at?] at there
          have free : (Node.directory entries).child? name = none := by
            rw [at?, Node.at?_append, there] at vacant
            simpa [Node.at?] using vacant
          obtain ⟨put, grows⟩ := Node.alter_vacant (.file [] false) there free
          have walked' := walk_vacant_grow grows put walked
          exact ⟨has_iff_place.mpr ⟨_, _, place_eq_ok_iff.mpr ⟨named, walked'⟩⟩, grows⟩

end Files

end SyscallProfiler
