/-!
# Searching lists that are in order

A search through a list ends at the first element that will do. If the list is in order, all others
that would do come after that one in the order, and not only in the list.
-/

namespace SyscallProfiler.Search

variable {α β : Type} {r : α → α → Prop} {list before after : List α} {a : α}

/-- Of the elements with a property, one that has none of them before it is the first. -/
theorem first_of_split {property : α → Prop} (ordered : (before ++ a :: after).Pairwise r)
    (unfit : ∀ b ∈ before, ¬property b) :
    ∀ b ∈ before ++ a :: after, property b → b = a ∨ r a b := by
  intro b among fit
  obtain ⟨-, rest, -⟩ := List.pairwise_append.mp ordered
  rcases List.mem_append.mp among with earlier | later
  · exact absurd fit (unfit b earlier)
  · rcases List.mem_cons.mp later with here | behind
    · exact Or.inl here
    · exact Or.inr ((List.pairwise_cons.mp rest).1 b behind)

theorem first_of_find? (ordered : list.Pairwise r) {fits : α → Bool}
    (found : list.find? fits = some a) :
    a ∈ list ∧ fits a = true ∧ ∀ b ∈ list, fits b = true → b = a ∨ r a b := by
  obtain ⟨fit, before, after, rfl, unfit⟩ := List.find?_eq_some_iff_append.mp found
  refine ⟨List.mem_of_find?_eq_some found, fit, first_of_split ordered fun b earlier fitB => ?_⟩
  have miss := unfit b earlier
  rw [fitB] at miss
  cases miss

theorem first_of_findSome? (ordered : list.Pairwise r) {f : α → Option β} {result : β}
    (found : list.findSome? f = some result) :
    ∃ a ∈ list, f a = some result ∧ ∀ b ∈ list, f b ≠ none → b = a ∨ r a b := by
  obtain ⟨before, a, after, rfl, fit, unfit⟩ := List.findSome?_eq_some_iff.mp found
  refine ⟨a, by simp, fit, first_of_split ordered fun b earlier => ?_⟩
  exact fun fitB => fitB (unfit b earlier)

end SyscallProfiler.Search
