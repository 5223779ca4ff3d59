import SyscallProfiler.Proofs.Json.Bindings
import SyscallProfiler.Toml.Document

/-!
# Keys of TOML documents

A document binds no key of its root twice: a key is added to a table only where it is not bound
yet, and all other changes of a table keep its keys or take one away. What is in the tables below
the root does not matter for this, so one step down is all that has to be followed.
-/

namespace SyscallProfiler

namespace Json

/-! ## Keys -/

variable {α : Type} {name : String} {items : List (String × α)}

theorem nodup_append_of_lookup (distinct : (items.map Prod.fst).Nodup)
    (free : lookup name items = none) (value : α) :
    ((items ++ [(name, value)]).map Prod.fst).Nodup := by
  rw [List.map_append, List.nodup_append]
  refine ⟨distinct, by simp, ?_⟩
  intro key hkey key' hkey' same
  obtain rfl := List.mem_singleton.mp hkey'
  exact lookup_eq_none_iff.mp free (same ▸ hkey)

end Json

namespace Toml

/-! ## Tables -/

variable {key : String} {item : Item} {items : List (String × Item)}

theorem mem_map_fst_setItem {name : String} :
    name ∈ (setItem key item items).map Prod.fst ↔ name = key ∨ name ∈ items.map Prod.fst := by
  induction items with
  | nil => simp [setItem]
  | cons pair rest ih =>
      obtain ⟨k, i⟩ := pair
      rw [setItem]
      split
      · next same =>
          subst same
          simp
      · simp only [List.map_cons, List.mem_cons, ih]
        exact or_left_comm

theorem nodup_setItem (distinct : (items.map Prod.fst).Nodup) :
    ((setItem key item items).map Prod.fst).Nodup := by
  induction items with
  | nil => simp [setItem]
  | cons pair rest ih =>
      obtain ⟨k, i⟩ := pair
      rw [List.map_cons, List.nodup_cons] at distinct
      rw [setItem]
      split
      · next same =>
          subst same
          exact List.nodup_cons.mpr distinct
      · next other =>
          rw [List.map_cons, List.nodup_cons, mem_map_fst_setItem]
          refine ⟨?_, ih distinct.2⟩
          rintro (same | later)
          · exact other same
          · exact distinct.1 later

/-! ## Trees of tables -/

theorem Item.lookup_itemsToJson (name : String) (items : List (String × Item)) :
    Json.lookup name (Item.itemsToJson items) = (Json.lookup name items).map Item.toJson := by
  induction items with
  | nil => rfl
  | cons binding rest ih =>
      obtain ⟨key, item⟩ := binding
      rw [Item.itemsToJson, Json.lookup, Json.lookup]
      split
      · rfl
      · exact ih

theorem Item.map_fst_itemsToJson (items : List (String × Item)) :
    (Item.itemsToJson items).map Prod.fst = items.map Prod.fst := by
  induction items with
  | nil => rfl
  | cons binding rest ih => rw [Item.itemsToJson, List.map_cons, List.map_cons, ih]

/-! ## Changes of tables -/

/-- A table that binds no key twice. -/
inductive Item.Distinct : Item → Prop where
  | table (implicit dotted : Bool) {items : List (String × Item)}
      (distinct : (items.map Prod.fst).Nodup) : Distinct (.table implicit dotted items)

/-- A change that makes no table bind a key twice. -/
def KeepsDistinct (change : Item → Option Item) : Prop :=
  ∀ table table', change table = some table' → table.Distinct → table'.Distinct

/-- Below a table, a change replaces the item of one key. -/
theorem descend_distinct {change : Item → Option Item} (keeps : KeepsDistinct change)
    (dotted : Bool) (path : List String) : KeepsDistinct (descend dotted change path) := by
  intro table table' changed distinct
  cases path with
  | nil => exact keeps table table' changed distinct
  | cons key path =>
      obtain ⟨implicit, dotted', distinct⟩ := distinct
      rw [descend] at changed
      split at changed
      · split at changed
        · cases changed
        · obtain ⟨below, -, rfl⟩ := Option.map_eq_some_iff.mp changed
          exact .table implicit dotted' (nodup_setItem distinct)
      · split at changed
        · obtain ⟨below, -, rfl⟩ := Option.map_eq_some_iff.mp changed
          exact .table implicit dotted' (nodup_setItem distinct)
        · cases changed
      · cases changed

theorem bind?_distinct (key : List String) (v : Item) : KeepsDistinct (bind? key v) := by
  refine descend_distinct ?_ _ _
  intro table table' changed distinct
  obtain ⟨implicit, dotted, distinct⟩ := distinct
  dsimp only at changed
  split at changed
  · cases changed
  · split at changed
    · cases changed
    · split at changed
      · cases changed
      · next free =>
          cases changed
          rw [Bool.not_eq_true, Option.isSome_eq_false_iff, Option.isNone_iff_eq_none] at free
          exact .table implicit dotted (Json.nodup_append_of_lookup distinct free v)

/-! ## Drafts -/

/-- Nothing in a draft makes the root of the document bind a key twice. -/
structure Draft.Distinct (d : Draft) : Prop where
  root : d.root.Distinct
  table : d.path = [] → d.table.Distinct

theorem Draft.Distinct.empty : Draft.empty.Distinct where
  root := .table false false List.nodup_nil
  table _ := .table false false List.nodup_nil

theorem Draft.Distinct.close {d : Draft} (h : d.Distinct) {root : Item}
    (closed : d.close = some root) : root.Distinct := by
  rw [Draft.close] at closed
  split at closed
  · next top =>
      cases closed
      exact h.table (List.getLast?_eq_none_iff.mp top)
  · next name inside =>
      refine descend_distinct ?_ false _ _ _ closed h.root
      intro table table' changed distinct
      obtain ⟨implicit, dotted, distinct⟩ := distinct
      dsimp only at changed
      split at changed
      · next free =>
          cases changed
          exact .table implicit dotted (Json.nodup_append_of_lookup distinct free _)
      · split at changed
        · cases changed
          exact .table implicit dotted (nodup_setItem distinct)
        · cases changed
      · split at changed
        · cases changed
        · cases changed
          exact .table implicit dotted (nodup_setItem distinct)
      · cases changed

theorem ne_nil_of_getLast? {path : List String} {name : String} (last : path.getLast? = some name) :
    path ≠ [] := by
  rintro rfl
  cases last

theorem openTable_distinct {path : List String} {root : Item} {d : Draft}
    (opened : openTable path root = some d) (distinct : root.Distinct) : d.Distinct := by
  rw [openTable] at opened
  split at opened
  · cases opened
  · next name last =>
      have inside : path ≠ [] := ne_nil_of_getLast? last
      simp only [Option.bind_eq_bind, Option.bind_eq_some_iff] at opened
      obtain ⟨whole, hwhole, cleared, hcleared, opened⟩ := opened
      have wholeDistinct : whole.Distinct := by
        refine descend_distinct ?_ false _ _ _ hwhole distinct
        rintro table _ ⟨⟩ distinct
        exact distinct
      have clearedDistinct : cleared.Distinct := by
        refine descend_distinct ?_ false _ _ _ hcleared wholeDistinct
        rintro table table' changed ⟨implicit, dotted, distinct⟩
        cases changed
        exact .table implicit dotted (distinct.sublist (List.filter_sublist.map _))
      split at opened
      · cases opened
        exact ⟨clearedDistinct, fun top => absurd top inside⟩
      · cases opened
        exact ⟨clearedDistinct, fun top => absurd top inside⟩
      · cases opened

theorem openElement_distinct {path : List String} {root : Item} {d : Draft}
    (opened : openElement path root = some d) (distinct : root.Distinct) : d.Distinct := by
  rw [openElement] at opened
  split at opened
  · cases opened
  · next name last =>
      simp only [Option.bind_eq_bind, Option.bind_eq_some_iff] at opened
      obtain ⟨whole, hwhole, opened⟩ := opened
      cases opened
      refine ⟨?_, fun top => absurd top (ne_nil_of_getLast? last)⟩
      refine descend_distinct ?_ false _ _ _ hwhole distinct
      rintro table table' changed ⟨implicit, dotted, distinct⟩
      dsimp only at changed
      split at changed
      · next free =>
          cases changed
          exact .table implicit dotted (Json.nodup_append_of_lookup distinct free _)
      · cases changed
        exact .table implicit dotted distinct
      · cases changed

theorem readLine_distinct {d d' : Draft} {text rest : List Char}
    (taken : readLine d text = some (d', rest)) (h : d.Distinct) : d'.Distinct := by
  rw [readLine] at taken
  split at taken
  · simp only [Option.bind_eq_bind, Option.bind_eq_some_iff] at taken
    obtain ⟨⟨path, after⟩, -, taken⟩ := taken
    split at taken
    · simp only [Option.bind_eq_some_iff] at taken
      obtain ⟨root, closed, next, opened, last, -, same⟩ := taken
      cases same
      exact openElement_distinct opened (h.close closed)
    · cases taken
  · simp only [Option.bind_eq_bind, Option.bind_eq_some_iff] at taken
    obtain ⟨⟨path, after⟩, -, taken⟩ := taken
    split at taken
    · simp only [Option.bind_eq_some_iff] at taken
      obtain ⟨root, closed, next, opened, last, -, same⟩ := taken
      cases same
      exact openTable_distinct opened (h.close closed)
    · cases taken
  · split at taken
    · cases taken
      exact h
    · simp only [Option.bind_eq_bind, Option.bind_eq_some_iff] at taken
      obtain ⟨⟨⟨key, v⟩, after⟩, -, table, bound, last, -, same⟩ := taken
      cases same
      exact ⟨h.root, fun top => bind?_distinct key v _ _ bound (h.table top)⟩

theorem readLines_distinct {fuel : Nat} {d d' : Draft} {text : List Char}
    (taken : readLines fuel d text = some d') (h : d.Distinct) : d'.Distinct := by
  induction fuel generalizing d text with
  | zero =>
      cases text with
      | nil =>
          cases taken
          exact h
      | cons c rest => cases taken
  | succ fuel ih =>
      cases text with
      | nil =>
          cases taken
          exact h
      | cons c rest =>
          simp only [readLines, Option.bind_eq_bind, Option.bind_eq_some_iff] at taken
          obtain ⟨⟨next, after⟩, line, more⟩ := taken
          exact ih more (readLine_distinct line h)

/-- A document is a table that binds no key twice. -/
theorem read_distinct {text : String} {document : Item} (h : read text = some document) :
    document.Distinct := by
  simp only [read, Option.bind_eq_bind, Option.bind_eq_some_iff] at h
  obtain ⟨d, lines, closed⟩ := h
  exact (readLines_distinct lines .empty).close closed

end Toml

end SyscallProfiler
