import SyscallProfiler.Proofs.Json.Exact

/-!
# What fields bind

Fields are made from pairs one at a time, and each pair takes the place of an earlier one with the
same key. So a look-up finds the value that was bound last. Ascending fields have nothing but
their look-ups: two of them that bind the same keys to the same values are the same list.
-/

namespace SyscallProfiler.Json

variable {α : Type} {key name : String} {value : α} {fields fields' : List (String × α)}

/-- The last value that pairs bind to a key, if they bind it at all. -/
def lastBound? (key : String) (pairs : List (String × α)) : Option α :=
  ((pairs.filter fun f => f.1 == key).getLast?).map Prod.snd

/-! ## Looking up -/

theorem lookup_eq_none_iff : lookup name fields = none ↔ name ∉ fields.map Prod.fst := by
  induction fields with
  | nil => exact iff_of_true rfl List.not_mem_nil
  | cons pair rest ih =>
      obtain ⟨key, value⟩ := pair
      by_cases same : key = name
      · simp [lookup, same]
      · simp [lookup, same, ih, Ne.symm same]

theorem mem_of_lookup (found : lookup key fields = some value) : (key, value) ∈ fields := by
  induction fields with
  | nil => cases found
  | cons f rest ih =>
      obtain ⟨k, v⟩ := f
      rw [lookup] at found
      split at found
      · rename_i same
        obtain rfl := Option.some.inj found
        exact same ▸ List.mem_cons_self
      · exact List.mem_cons_of_mem _ (ih found)

/-- Of ascending fields a look-up finds every one. -/
theorem Ascending.lookup_eq_some_iff (h : Ascending fields) :
    lookup key fields = some value ↔ (key, value) ∈ fields := by
  refine ⟨mem_of_lookup, fun among => ?_⟩
  induction fields with
  | nil => cases among
  | cons f rest ih =>
      obtain ⟨k, v⟩ := f
      obtain ⟨first, later⟩ := List.pairwise_cons.mp h
      rcases List.mem_cons.mp among with here | behind
      · cases here
        rw [lookup, if_pos rfl]
      · have less : k < key := first _ behind
        have other : k ≠ key := fun same => String.lt_irrefl key (same ▸ less)
        rw [lookup, if_neg other]
        exact ih later behind

/-- Ascending fields in which look-ups find the same are the same. -/
theorem Ascending.eq_of_lookup_eq (h : Ascending fields) (h' : Ascending fields')
    (same : ∀ key, lookup key fields = lookup key fields') : fields = fields' := by
  have distinct {fs : List (String × α)} (hfs : Ascending fs) : fs.Nodup := by
    refine List.Pairwise.imp (fun {f g} less e => ?_) hfs
    exact String.lt_irrefl _ (e ▸ less)
  have members : ∀ f, f ∈ fields ↔ f ∈ fields' := by
    rintro ⟨key, value⟩
    rw [← h.lookup_eq_some_iff, ← h'.lookup_eq_some_iff, same key]
  have perm : fields.Perm fields' :=
    (List.perm_ext_iff_of_nodup (distinct h) (distinct h')).mpr members
  refine List.Perm.eq_of_pairwise (fun f g _ _ before after => ?_) h h' perm
  exact absurd after (String.lt_asymm before)

/-! ## Binding -/

/-- Binding a key changes what is found for that key and for no other. -/
theorem lookup_insert (name key : String) (value : α) (fields : List (String × α)) :
    lookup name (insert key value fields) =
      if key = name then some value else lookup name fields := by
  induction fields with
  | nil => rfl
  | cons f rest ih =>
      obtain ⟨k, v⟩ := f
      rw [insert]
      split
      · rw [lookup]
      · split
        · rename_i same
          subst same
          simp only [lookup]
          split <;> rfl
        · rename_i other
          by_cases named : k = name
          · have unbound : key ≠ name := fun e => other (e.trans named.symm)
            simp [lookup, named, unbound]
          · simp [lookup, named, ih]

theorem lastBound?_cons (name key : String) (value : α) (pairs : List (String × α)) :
    lastBound? name ((key, value) :: pairs) =
      (lastBound? name pairs).or (if key = name then some value else none) := by
  rw [lastBound?, lastBound?, List.filter_cons]
  by_cases same : key = name
  · rw [if_pos same, if_pos (beq_iff_eq.mpr same), List.getLast?_cons]
    cases (pairs.filter fun f => f.1 == name).getLast? <;> rfl
  · rw [if_neg same, if_neg fun e => same (beq_iff_eq.mp e), Option.or_none]

/-- Pairs that are bound one after the other leave what was bound before them where they do not
bind a key. The induction is on the pairs, while the fields they are bound in change. -/
theorem lookup_foldl_insert (name : String) (pairs fields : List (String × α)) :
    lookup name (pairs.foldl (fun fields (key, value) => insert key value fields) fields) =
      (lastBound? name pairs).or (lookup name fields) := by
  induction pairs generalizing fields with
  | nil => rfl
  | cons f rest ih =>
      obtain ⟨key, value⟩ := f
      rw [List.foldl_cons, ih, lookup_insert, lastBound?_cons, Option.or_assoc]
      split <;> rfl

/-- The fields that pairs bind hold the last value of each key. -/
theorem lookup_sortFields (name : String) (pairs : List (String × α)) :
    lookup name (sortFields pairs) = lastBound? name pairs := by
  rw [sortFields, lookup_foldl_insert, lookup, Option.or_none]

theorem mem_of_lastBound? {pairs : List (String × α)} (bound : lastBound? key pairs = some value) :
    (key, value) ∈ pairs := by
  obtain ⟨⟨k, v⟩, last, rfl⟩ := Option.map_eq_some_iff.mp bound
  obtain ⟨among, same⟩ := List.mem_filter.mp (List.mem_of_getLast? last)
  rw [beq_iff_eq] at same
  exact same ▸ among

theorem mem_sortFields_iff {pairs : List (String × α)} :
    (key, value) ∈ sortFields pairs ↔ lastBound? key pairs = some value := by
  rw [← lookup_sortFields, (ascending_sortFields pairs).lookup_eq_some_iff]

/-- Pairs bind the same fields exactly if they bind every key to the same value last. -/
theorem sortFields_eq_iff {pairs pairs' : List (String × α)} :
    sortFields pairs = sortFields pairs' ↔
      ∀ key, lastBound? key pairs = lastBound? key pairs' := by
  constructor
  · intro same key
    rw [← lookup_sortFields, same, lookup_sortFields]
  · intro same
    refine (ascending_sortFields pairs).eq_of_lookup_eq (ascending_sortFields pairs') fun key => ?_
    rw [lookup_sortFields, lookup_sortFields, same key]

/-! ## The order of pairs -/

/-- Neighbours with different keys may change places. -/
theorem lastBound?_swap {f g : String × α} (other : f.1 ≠ g.1) (before after : List (String × α))
    (key : String) :
    lastBound? key (before ++ g :: f :: after) = lastBound? key (before ++ f :: g :: after) := by
  have alike : (g :: f :: after).filter (fun h => h.1 == key) =
      (f :: g :: after).filter fun h => h.1 == key := by
    by_cases first : f.1 = key
    · have second : g.1 ≠ key := fun e => other (first.trans e.symm)
      simp [first, second]
    · simp [List.filter_cons, first]
  rw [lastBound?, lastBound?, List.filter_append, List.filter_append, alike]

/-- Where no key is bound twice, the order of the pairs makes no difference. The induction is on
the exchanges that lead from one order to the other. -/
theorem lastBound?_perm {pairs pairs' : List (String × α)} (perm : pairs.Perm pairs')
    (distinct : (pairs.map Prod.fst).Nodup) (key : String) :
    lastBound? key pairs = lastBound? key pairs' := by
  induction perm with
  | nil => rfl
  | cons f _ ih =>
      obtain ⟨name, value⟩ := f
      rw [lastBound?_cons, lastBound?_cons, ih (List.nodup_cons.mp distinct).2]
  | swap f g rest =>
      have other : f.1 ≠ g.1 := by
        intro same
        exact (List.nodup_cons.mp distinct).1 (same ▸ List.mem_cons_self)
      exact lastBound?_swap other [] rest key
  | trans first second ih ih' =>
      rw [ih distinct, ih' ((first.map Prod.fst).nodup distinct)]

/-! ## Distinct keys -/

theorem lastBound?_eq_lookup {pairs : List (String × α)} (distinct : (pairs.map Prod.fst).Nodup)
    (name : String) : lastBound? name pairs = lookup name pairs := by
  induction pairs with
  | nil => rfl
  | cons f rest ih =>
      obtain ⟨key, value⟩ := f
      obtain ⟨fresh, later⟩ := List.nodup_cons.mp distinct
      rw [lastBound?_cons, ih later, lookup]
      split
      · rename_i same
        rw [lookup_eq_none_iff.mpr (same ▸ fresh), Option.none_or]
      · exact Option.or_none

theorem insert_perm (fresh : key ∉ fields.map Prod.fst) :
    (insert key value fields).Perm ((key, value) :: fields) := by
  fun_induction insert key value fields with
  | case1 => rfl
  | case2 => rfl
  | case3 v rest => exact absurd List.mem_cons_self fresh
  | case4 k v rest less other ih =>
      have later := ih fun among => fresh (List.mem_cons_of_mem k among)
      exact (later.cons (k, v)).trans (List.Perm.swap ..)

/-- Where no key is bound twice, nothing is lost by putting fields in order. -/
theorem sortFields_perm {pairs : List (String × α)} (distinct : (pairs.map Prod.fst).Nodup) :
    (sortFields pairs).Perm pairs := by
  suffices go : ∀ rest done : List (String × α), ((done ++ rest).map Prod.fst).Nodup →
      (rest.foldl (fun fields (key, value) => insert key value fields) done).Perm
        (done ++ rest) from
    go pairs [] distinct
  intro rest
  induction rest with
  | nil => simp
  | cons f rest ih =>
      obtain ⟨key, value⟩ := f
      intro done distinct
      have toFront : (done ++ (key, value) :: rest).Perm ((key, value) :: (done ++ rest)) :=
        List.perm_middle
      have fresh : key ∉ done.map Prod.fst := by
        have := (toFront.map Prod.fst).nodup distinct
        simp only [List.map_cons, List.nodup_cons, List.map_append, List.mem_append] at this
        exact fun among => this.1 (.inl among)
      have placed : (insert key value done ++ rest).Perm (done ++ (key, value) :: rest) :=
        ((insert_perm fresh).append_right rest).trans toFront.symm
      exact (ih _ ((placed.map Prod.fst).symm.nodup distinct)).trans placed

theorem map_fst_normalFields (fields : Fields) :
    (normalFields fields).map Prod.fst = fields.map Prod.fst := by
  rw [normalFields_eq_map, List.map_map]
  rfl

theorem lookup_normalFields (name : String) (fields : Fields) :
    lookup name (normalFields fields) = (lookup name fields).map normal := by
  induction fields with
  | nil => rfl
  | cons f rest ih =>
      obtain ⟨key, value⟩ := f
      rw [normalFields, lookup, lookup, ih]
      split <;> rfl

/-- In the normal form of an object stand the normal forms of what stood in it. -/
theorem lookup_sortFields_normalFields {fields : Fields} (distinct : (fields.map Prod.fst).Nodup)
    (name : String) :
    lookup name (sortFields (normalFields fields)) = (lookup name fields).map normal := by
  rw [← map_fst_normalFields] at distinct
  rw [lookup_sortFields, lastBound?_eq_lookup distinct, lookup_normalFields]

end SyscallProfiler.Json
