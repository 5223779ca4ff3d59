import SyscallProfiler.Window

/-!
# Instants that windows share

A window holds its beginning but not its end. Comparing the bounds of two windows decides whether
they share an instant as long as both are open for some time. A window of no length holds no
instant, and still it passes for one that overlaps every window that begins before and ends after
it.
-/

namespace SyscallProfiler.Window

/-- The instant lies in the window. -/
def Holds (w : Window) (t : Nat) : Prop := w.startedAt ≤ t ∧ t < w.endedAt

/-- Some instant lies in both windows. -/
def Meets (v w : Window) : Prop := ∃ t, v.Holds t ∧ w.Holds t

/-- The window has no length, and the other one begins before and ends after it. -/
def IsPointIn (v w : Window) : Prop :=
  v.length = 0 ∧ w.startedAt < v.startedAt ∧ v.endedAt < w.endedAt

variable {v w : Window}

/-! ## Bounds -/

theorem startedAt_le_closeAt (w : Window) (now : Nat) :
    (w.closeAt now).startedAt ≤ (w.closeAt now).endedAt :=
  Nat.le_max_right now w.startedAt

theorem overlaps_iff :
    v.overlaps w = true ↔ v.startedAt < w.endedAt ∧ w.startedAt < v.endedAt := by
  rw [overlaps, Bool.and_eq_true, decide_eq_true_eq, decide_eq_true_eq]

theorem overlaps_comm (v w : Window) : v.overlaps w = w.overlaps v :=
  Bool.and_comm ..

theorem overlaps_eq_false (before : v.endedAt ≤ w.startedAt) :
    v.overlaps w = false ∧ w.overlaps v = false := by
  rw [overlaps_comm w v, and_self, Bool.eq_false_iff]
  intro overlap
  rw [overlaps_iff] at overlap
  omega

/-! ## Instants -/

/-- Windows share an instant exactly if they share the later one of their beginnings. -/
theorem meets_iff :
    v.Meets w ↔ max v.startedAt w.startedAt < v.endedAt ∧
      max v.startedAt w.startedAt < w.endedAt := by
  constructor
  · rintro ⟨t, ⟨begunV, untilV⟩, begunW, untilW⟩
    have begun : max v.startedAt w.startedAt ≤ t := Nat.max_le.mpr ⟨begunV, begunW⟩
    exact ⟨Nat.lt_of_le_of_lt begun untilV, Nat.lt_of_le_of_lt begun untilW⟩
  · rintro ⟨untilV, untilW⟩
    exact ⟨_, ⟨Nat.le_max_left .., untilV⟩, Nat.le_max_right .., untilW⟩

theorem Meets.symm (shared : v.Meets w) : w.Meets v := by
  obtain ⟨t, inV, inW⟩ := shared
  exact ⟨t, inW, inV⟩

theorem not_meets_of_length_eq_zero (empty : v.length = 0) : ¬v.Meets w := by
  rintro ⟨t, ⟨begun, still⟩, -⟩
  rw [length] at empty
  omega

theorem overlaps_of_meets (shared : v.Meets w) : v.overlaps w = true := by
  rw [meets_iff] at shared
  rw [overlaps_iff]
  omega

/-! ## What comparing bounds decides -/

/-- If the bounds of windows without an instant in common compare as if they had one, one of the
windows is a point in the other. -/
theorem isPointIn_of_overlaps (hv : v.startedAt ≤ v.endedAt) (hw : w.startedAt ≤ w.endedAt)
    (overlap : v.overlaps w = true) (apart : ¬v.Meets w) : v.IsPointIn w ∨ w.IsPointIn v := by
  rw [overlaps_iff] at overlap
  rw [meets_iff] at apart
  by_cases emptyV : v.length = 0
  · refine Or.inl ⟨emptyV, ?_⟩
    rw [length] at emptyV
    omega
  · -- With two windows that are open for some time, the later beginning would be shared.
    have emptyW : w.length = 0 := by
      rw [length] at emptyV ⊢
      omega
    refine Or.inr ⟨emptyW, ?_⟩
    rw [length] at emptyW
    omega

theorem overlaps_of_isPointIn (hv : v.startedAt ≤ v.endedAt) (point : v.IsPointIn w) :
    v.overlaps w = true := by
  obtain ⟨-, before, after⟩ := point
  rw [overlaps_iff]
  omega

/-- Windows end no earlier than they begin, as all do that are opened and closed by a clock. Then
two of them pass for overlapping if they share an instant, or else if one of them is a point in
the other, and in no other case. Which one is asked about the other makes no difference. -/
theorem overlaps_iff_meets_or_point (hv : v.startedAt ≤ v.endedAt) (hw : w.startedAt ≤ w.endedAt) :
    (v.overlaps w = true ↔ v.Meets w ∨ v.IsPointIn w ∨ w.IsPointIn v) ∧
      (v.IsPointIn w ∨ w.IsPointIn v → ¬v.Meets w) ∧ v.overlaps w = w.overlaps v := by
  refine ⟨⟨fun overlap => ?_, ?_⟩, ?_, overlaps_comm v w⟩
  · by_cases shared : v.Meets w
    · exact Or.inl shared
    · exact Or.inr (isPointIn_of_overlaps hv hw overlap shared)
  · rintro (shared | point | point)
    · exact overlaps_of_meets shared
    · exact overlaps_of_isPointIn hv point
    · rw [overlaps_comm]
      exact overlaps_of_isPointIn hw point
  · rintro (⟨empty, -⟩ | ⟨empty, -⟩)
    · exact not_meets_of_length_eq_zero empty
    · intro shared
      exact not_meets_of_length_eq_zero empty shared.symm

/-- The second window begins before the first one ends. -/
theorem overlaps_iff_meets_or_point_staggered :
    let v : Window := ⟨10, 20⟩
    let w : Window := ⟨15, 25⟩
    v.startedAt ≤ v.endedAt ∧ w.startedAt ≤ w.endedAt ∧
      (v.Meets w ∨ v.IsPointIn w ∨ w.IsPointIn v) := by
  intro v w
  have hv : v.startedAt ≤ v.endedAt := by decide
  have hw : w.startedAt ≤ w.endedAt := by decide
  exact ⟨hv, hw, (overlaps_iff_meets_or_point hv hw).1.mp (by decide)⟩

/-- A window that is closed as soon as it is opened holds no instant, and overlaps one that is
open before and after that. -/
theorem overlaps_without_instant :
    let v := (openAt 5).closeAt 5
    let w := (openAt 0).closeAt 10
    v.startedAt ≤ v.endedAt ∧ w.startedAt ≤ w.endedAt ∧ v.overlaps w = true ∧ ¬v.Meets w := by
  intro v w
  have empty : v.length = 0 := by decide
  exact ⟨startedAt_le_closeAt _ 5, startedAt_le_closeAt _ 10, by decide,
    not_meets_of_length_eq_zero empty⟩

end SyscallProfiler.Window
