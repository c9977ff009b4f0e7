import DisplayServer.Geometry
import Mathlib.Tactic.ByContra

/-! # Which points a rectangle contains

The far edge of a rectangle is excluded, and one beyond the coordinate range is held at the last
coordinate. So the last column and the last row are taken for far edges there, and no rectangle
contains a point of them (`Rectangle.membership_short_of_last`). At the other end nothing is lost:
an edge before the first coordinate excludes every point, wherever it is held.
-/

namespace DisplayServer

/-- The last coordinate. -/
def Point.last : Int32 := 2147483647

private theorem toInt_last : Point.last.toInt = 2147483647 := rfl

private theorem toInt_le_last (value : Int32) : value.toInt ≤ 2147483647 := by
  have below := value.toInt_lt
  omega

/-- A sum that saturates, as an integer. -/
theorem toInt_saturatingAdd (a b : Int32) :
    (saturatingAdd a b).toInt =
      max (-2147483648) (min 2147483647 (a.toInt + b.toInt)) :=
  Int32.toInt_ofInt_of_le (by omega) (by omega)

/-- A coordinate lies before an edge that is held in range if it lies before the edge itself, unless
it is the last one, which does not lie before anything. -/
theorem lt_saturatingAdd_iff (value a b : Int32) :
    value < saturatingAdd a b ↔ value.toInt < a.toInt + b.toInt ∧ value ≠ Point.last := by
  have first := value.le_toInt
  have last := toInt_le_last value
  rw [Int32.lt_iff_toInt_lt, toInt_saturatingAdd, Ne, ← Int32.toInt_inj, toInt_last]
  omega

/-- A size is positive if both its sides are. -/
theorem Size.isPositive_eq_true_iff {size : Size} :
    size.isPositive = true ↔ 0 < size.w.toInt ∧ 0 < size.h.toInt := by
  rw [Size.isPositive, Bool.and_eq_true, decide_eq_true_eq, decide_eq_true_eq,
    Int32.lt_iff_toInt_lt, Int32.lt_iff_toInt_lt, Int32.toInt_zero]

namespace Rectangle

variable {rect : Rectangle} {point : Point}

/-- A rectangle contains the points that it covers, and no others. -/
def IsExact (rect : Rectangle) : Prop :=
  ∀ point, rect.contains point = true ↔ rect.Covers point

/-- All that a rectangle covers has coordinates before the last ones. -/
structure IsWithin (rect : Rectangle) : Prop where
  right : rect.loc.x.toInt + rect.size.w.toInt ≤ 2147483647
  bottom : rect.loc.y.toInt + rect.size.h.toInt ≤ 2147483647

/-- **A rectangle contains what it covers, short of the last coordinates.** -/
theorem contains_eq_true_iff :
    rect.contains point = true ↔
      rect.Covers point ∧ point.x ≠ Point.last ∧ point.y ≠ Point.last := by
  simp only [contains, Covers, Bool.and_eq_true, decide_eq_true_eq, lt_saturatingAdd_iff,
    Int32.le_iff_toInt_le]
  constructor
  · rintro ⟨⟨⟨left, right, x⟩, top⟩, bottom, y⟩
    exact ⟨⟨left, right, top, bottom⟩, x, y⟩
  · rintro ⟨⟨left, right, top, bottom⟩, x, y⟩
    exact ⟨⟨⟨left, right, x⟩, top⟩, bottom, y⟩

/-- An exact rectangle does not cover a point with a last coordinate. -/
theorem IsExact.ne_last (exact : rect.IsExact) (covers : rect.Covers point) :
    point.x ≠ Point.last ∧ point.y ≠ Point.last :=
  (contains_eq_true_iff.mp ((exact point).mpr covers)).2

/-- The far edge of a rectangle that stays within the plane is exact. -/
theorem IsWithin.isExact (within : rect.IsWithin) : rect.IsExact := by
  intro point
  rw [contains_eq_true_iff, and_iff_left_iff_imp, Ne, Ne, ← Int32.toInt_inj, ← Int32.toInt_inj,
    toInt_last]
  rintro ⟨-, right, -, bottom⟩
  have := within.right
  have := within.bottom
  omega

/-- A rectangle without extent in one of the directions covers nothing. -/
theorem not_covers_of_flat (flat : rect.size.isPositive = false) : ¬ rect.Covers point := by
  rintro ⟨left, right, top, bottom⟩
  have positive : rect.size.isPositive = true := by
    rw [Size.isPositive_eq_true_iff]
    omega
  exact Bool.noConfusion (flat.symm.trans positive)

/-- A rectangle that covers anything, and has an edge beyond the last coordinate, covers a point
with that coordinate. -/
theorem exists_covers_last (positive : rect.size.isPositive = true) (beyond : ¬ rect.IsWithin) :
    ∃ point, rect.Covers point ∧ (point.x = Point.last ∨ point.y = Point.last) := by
  obtain ⟨wide, high⟩ := Size.isPositive_eq_true_iff.mp positive
  have left := toInt_le_last rect.loc.x
  have top := toInt_le_last rect.loc.y
  by_cases right : rect.loc.x.toInt + rect.size.w.toInt ≤ 2147483647
  · have bottom : 2147483647 < rect.loc.y.toInt + rect.size.h.toInt :=
      Int.not_le.mp fun bottom => beyond ⟨right, bottom⟩
    exact ⟨⟨rect.loc.x, Point.last⟩,
      ⟨Int.le_refl _, Int.lt_add_of_pos_right _ wide, top, bottom⟩, .inr rfl⟩
  · exact ⟨⟨Point.last, rect.loc.y⟩,
      ⟨left, Int.not_le.mp right, Int.le_refl _, Int.lt_add_of_pos_right _ high⟩, .inl rfl⟩

/-- **Membership is exact short of the last coordinates.** A point is contained if and only if it is
covered, in unbounded integers, and has neither coordinate the last one. So a rectangle is exact
just if it is empty or no edge of it lies beyond the last coordinate. -/
theorem membership_short_of_last (rect : Rectangle) :
    (∀ point, rect.contains point = true ↔
      rect.Covers point ∧ point.x ≠ Point.last ∧ point.y ≠ Point.last) ∧
      (rect.IsExact ↔ rect.size.isPositive = false ∨ rect.IsWithin) := by
  refine ⟨fun point => contains_eq_true_iff, fun exact => ?_, ?_⟩
  · refine or_iff_not_imp_left.mpr fun extended => ?_
    by_contra beyond
    obtain ⟨point, covers, last⟩ := exists_covers_last ((Bool.not_eq_false _).mp extended) beyond
    exact last.elim (exact.ne_last covers).1 (exact.ne_last covers).2
  · rintro (flat | within)
    · intro point
      rw [contains_eq_true_iff, and_iff_left_iff_imp]
      exact fun covers => (not_covers_of_flat flat covers).elim
    · exact within.isExact

/-- A rectangle of one point in the last column covers its corner and does not contain it. -/
theorem not_isExact_lastColumn : ¬ (ofEdges 2147483647 0 1 1).IsExact := by
  intro exact
  have corner : (ofEdges 2147483647 0 1 1).Covers ⟨2147483647, 0⟩ := by
    unfold Covers
    decide
  exact absurd ((exact ⟨2147483647, 0⟩).mpr corner) (by decide)

example : (ofEdges 10 20 30 40).contains ⟨10, 20⟩ = true ∧
    (ofEdges 10 20 30 40).contains ⟨40, 20⟩ = false := by decide

end Rectangle

end DisplayServer
