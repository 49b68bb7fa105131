import Mathlib.Data.Set.Function
import Mathlib.Data.Set.Prod
import Mathlib.Order.Interval.Set.Defs
import Seph.Proofs.Nbgl.Picture

/-!
# Orders of pixels

An order lists every point of a rectangle once, also where the rectangle is no square.

1. `position_eq_none_iff`, `pos_of_position`: beyond the last point there is no place, and a rectangle
   without columns or without rows has none at all.
2. `bijOn_position`: places and points are matched one to one.
3. `position_flipHorizontal`, `position_flipVertical`, `position_flipBoth`: three of the orders are mirror
   images, and `position_rows_iff`: the last one goes by rows.
4. `value_of_position`: a picture shows at a point the value that is listed at its place.
-/

namespace Seph.Nbgl

namespace Order

/-- The point with left and right exchanged, in a rectangle of `w` columns. -/
def mirrorColumns (w : Nat) (p : Nat × Nat) : Nat × Nat := (w - 1 - p.1, p.2)

/-- The point with top and bottom exchanged, in a rectangle of `h` rows. -/
def mirrorRows (h : Nat) (p : Nat × Nat) : Nat × Nat := (p.1, h - 1 - p.2)

section Places

variable {o : Order} {w h i x y : Nat}

theorem position_eq_none_iff : o.position w h i = none ↔ w * h ≤ i := by
  unfold position
  by_cases hi : w * h ≤ i
  · simp [hi]
  · simp [hi]

theorem pos_of_position {p : Nat × Nat} (hp : o.position w h i = some p) : 0 < w ∧ 0 < h := by
  have hi : ¬ w * h ≤ i := by
    intro hle
    rw [position_eq_none_iff.2 hle] at hp
    cases hp
  have hpos : 0 < w * h := by omega
  exact ⟨Nat.pos_of_mul_pos_right hpos, Nat.pos_of_mul_pos_left hpos⟩

/-- **The places are matched one to one with the points of the rectangle.** -/
theorem bijOn_position (o : Order) (w h : Nat) :
    Set.BijOn (o.position w h) (Set.Iio (w * h)) (some '' (Set.Iio w ×ˢ Set.Iio h)) := by
  refine ⟨?_, ?_, ?_⟩
  · intro i hi
    obtain ⟨x, y, hp, hx, hy⟩ := o.exists_position hi
    rw [hp]
    exact ⟨(x, y), ⟨hx, hy⟩, rfl⟩
  · intro i hi j hj he
    obtain ⟨x, y, hp, -⟩ := o.exists_position hi
    have hp' : o.position w h j = some (x, y) := he.symm.trans hp
    exact (o.index_of_position hp).symm.trans (o.index_of_position hp')
  · rintro _ ⟨⟨x, y⟩, ⟨hx, hy⟩, rfl⟩
    obtain ⟨hi, hp⟩ := o.position_index hx hy
    exact ⟨_, hi, hp⟩

/-! ## Mirror images -/

theorem position_flipHorizontal (w h i : Nat) :
    flipHorizontal.position w h i = (plain.position w h i).map (mirrorColumns w) := by
  unfold position
  by_cases hi : w * h ≤ i
  · simp [hi]
  · have hh : 0 < h := Nat.pos_of_mul_pos_left (show 0 < w * h by omega)
    have hc : i / h < w := (Nat.div_lt_iff_lt_mul hh).2 (by omega)
    have hx : w - 1 - (w - 1 - i / h) = i / h := Nat.sub_sub_self (Nat.le_sub_one_of_lt hc)
    simp [hi, mirrorColumns, hx]

theorem position_flipVertical (w h i : Nat) :
    flipVertical.position w h i = (plain.position w h i).map (mirrorRows h) := by
  unfold position
  by_cases hi : w * h ≤ i
  · simp [hi]
  · simp [hi, mirrorRows]

theorem position_flipBoth (w h i : Nat) :
    flipBoth.position w h i = (flipHorizontal.position w h i).map (mirrorRows h) := by
  unfold position
  by_cases hi : w * h ≤ i
  · simp [hi]
  · simp [hi, mirrorRows]

/-- The last order goes by rows. -/
theorem position_rows_iff : rows.position w h i = some (x, y) ↔ x < w ∧ y < h ∧ i = y * w + x := by
  constructor
  · intro hp
    have hi : i < w * h := by
      by_contra hle
      rw [position_eq_none_iff.2 (by omega)] at hp
      cases hp
    obtain ⟨x', y', hp', hx, hy⟩ := rows.exists_position hi
    rw [hp] at hp'
    cases hp'
    exact ⟨hx, hy, (rows.index_of_position hp).symm⟩
  · rintro ⟨hx, hy, rfl⟩
    exact (rows.position_index hx hy).2

end Places

/-! ## Values -/

theorem value_of_position {o : Order} {w h i x y : Nat} (vs : Array UInt8)
    (hp : o.position w h i = some (x, y)) : Picture.value ⟨w, h, o, vs⟩ x y = vs.getD i 0 := by
  rw [Picture.value, o.index_of_position hp]

/-- **Every order lists every point of a rectangle once.** Take any number of columns and of rows, whether
equal or not. In each of the five orders a place has no point exactly if it is beyond the last one; where it
has one neither number is zero, so that nothing is divided by zero; the places before that are matched one
to one with the points of the rectangle; and what a picture shows at the point of a place is the value that
is listed there. Order 1 is order 0 with left and right exchanged, order 3 is order 1 and order 2 is order 0
with top and bottom exchanged, and order 4 goes row by row. -/
theorem orders_list_every_point (w h : Nat) :
    [plain, flipHorizontal, flipVertical, flipBoth, rows].map code = [0, 1, 2, 3, 4] ∧
    (∀ o : Order,
      (∀ i, o.position w h i = none ↔ w * h ≤ i) ∧
      (∀ i p, o.position w h i = some p → 0 < w ∧ 0 < h) ∧
      Set.BijOn (o.position w h) (Set.Iio (w * h)) (some '' (Set.Iio w ×ˢ Set.Iio h)) ∧
      ∀ (vs : Array UInt8) (i x y : Nat), o.position w h i = some (x, y) →
        Picture.value ⟨w, h, o, vs⟩ x y = vs.getD i 0) ∧
    ∀ i, flipHorizontal.position w h i = (plain.position w h i).map (mirrorColumns w) ∧
      flipBoth.position w h i = (flipHorizontal.position w h i).map (mirrorRows h) ∧
      flipVertical.position w h i = (plain.position w h i).map (mirrorRows h) ∧
      ∀ x y, rows.position w h i = some (x, y) ↔ x < w ∧ y < h ∧ i = y * w + x := by
  refine ⟨rfl, ?_, ?_⟩
  · intro o
    exact ⟨fun i => position_eq_none_iff, fun i p hp => pos_of_position hp, bijOn_position o w h,
      fun vs i x y hp => value_of_position vs hp⟩
  · intro i
    exact ⟨position_flipHorizontal w h i, position_flipBoth w h i, position_flipVertical w h i,
      fun x y => position_rows_iff⟩

/-- Three columns of two rows, from the bottom right. The second value stands in the last column of the
first row. -/
theorem orders_list_every_point_of_three_by_two :
    flipVertical.position 3 2 1 = some (2, 0) ∧ (0 < 3 ∧ 0 < 2) ∧
      Picture.value ⟨3, 2, flipVertical, #[5, 6, 7]⟩ 2 0 = 6 := by
  have hp : flipVertical.position 3 2 1 = some (2, 0) := by decide
  obtain ⟨-, positive, -, shown⟩ := (orders_list_every_point 3 2).2.1 flipVertical
  exact ⟨hp, positive 1 (2, 0) hp, shown #[5, 6, 7] 1 2 0 hp⟩

end Order

end Seph.Nbgl
