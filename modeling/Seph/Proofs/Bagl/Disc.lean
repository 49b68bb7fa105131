import Seph.Proofs.Bagl.Rounding

/-!
# Quarter discs

The midpoint method goes along the edge of a quarter disc with an error term that is only ever added to.
What it paints is told by a quadratic form in the distances from the centre (`InDisc`).

1. `length_spansFrom_le`: the edge is left behind after at most as many rounds as the radius says.
2. `covers_quarter_iff_offsets`: the points painted, by their distances from the centre.
3. `covers_quarter_zero`: a disc without a radius is its centre.
4. `quarter_disc_shape`: all of this for what is on the screen.
-/

namespace Seph.Bagl

/-! ## Rounds -/

/-- Every round gives two spans and moves the point towards the diagonal. -/
theorem length_spansFrom_le (dx dy err : Int) :
    ((spansFrom dx dy err).length : Int) ≤ max 0 (2 * (dx - dy + 1)) := by
  fun_induction spansFrom dx dy err with
  | case1 dx dy err hd down inwards =>
    simp only [List.length_cons, Nat.cast_add, Nat.cast_one]
    by_cases hneg : err < 0
    · rw [if_pos hneg]
      omega
    · rw [if_neg hneg]
      omega
  | case2 dx dy err hd => simp

/-- The spans of a disc of radius `r` are given in at most `r + 1` rounds. -/
theorem length_quarterSpans_le {r : Int} (hr : 0 ≤ r) :
    ((quarterSpans r).length : Int) ≤ 2 * (r + 1) := by
  have h := length_spansFrom_le r 0 (1 - r)
  unfold quarterSpans
  omega

theorem quarterSpans_zero : quarterSpans 0 = [(0, 0), (0, 0)] := by
  unfold quarterSpans
  rw [spansFrom, if_pos (le_refl 0), if_neg (by decide), spansFrom, if_neg (by decide)]

/-! ## Points -/

/-- The sign of an offset: backwards, to the left or above, or forwards. -/
def side (back : Bool) : Int := if back then -1 else 1

theorem add_side_iff {a c u : Int} {back : Bool} :
    u = a + side back * c ↔ c = if back then a - u else u - a := by
  unfold side
  cases back with
  | false =>
    simp only [Bool.false_eq_true, if_false]
    omega
  | true =>
    simp only [if_true]
    omega

section Quarter

variable {cx cy r u v : Int} {left above : Bool}

/-- **The points of a quarter disc** are those whose distances from the centre, across and down, are those
of a point in the disc. -/
theorem covers_quarter_iff_offsets (hr : 1 ≤ r) :
    Covers (quarter cx cy r left above) u v ↔
      ∃ c row, 0 ≤ c ∧ 0 ≤ row ∧ u = cx + side left * c ∧ v = cy + side above * row ∧ InDisc r c row := by
  rw [covers_quarter_iff hr]
  constructor
  · rintro ⟨hc, hrow, hin⟩
    exact ⟨_, _, hc, hrow, add_side_iff.2 rfl, add_side_iff.2 rfl, hin⟩
  · rintro ⟨c, row, hc, hrow, hu, hv, hin⟩
    rw [add_side_iff] at hu hv
    subst hu hv
    exact ⟨hc, hrow, hin⟩

theorem covers_quarter_zero : Covers (quarter cx cy 0 left above) u v ↔ u = cx ∧ v = cy := by
  unfold quarter
  rw [quarterSpans_zero]
  simp only [List.map_cons, List.map_nil, covers_cons, covers_nil, or_false, or_self, Box.contains_mk,
    sub_zero, add_zero, ite_self]
  omega

end Quarter

/-- **What is painted of a quarter disc.** Take any centre and any two signs. With a radius of at least one
the method is through after at most one round more than the radius, and the offsets of the points that it
paints, before they get their signs, are those with `M * M + m * m - M < r * r`, where `M` is the larger of
the two and `m` the smaller; with radius zero it paints the centre alone. Of these points, those on the
screen get the colour, and no other point changes. -/
theorem quarter_disc_shape (cx cy : Int) (left above : Bool) :
    (∀ r : Int, 1 ≤ r →
      ((quarterSpans r).length : Int) ≤ 2 * (r + 1) ∧
      ∀ u v, Covers (quarter cx cy r left above) u v ↔
        ∃ c row, 0 ≤ c ∧ 0 ≤ row ∧ u = cx + side left * c ∧ v = cy + side above * row ∧
          max c row * max c row + min c row * min c row - max c row < r * r) ∧
    (∀ u v, Covers (quarter cx cy 0 left above) u v ↔ u = cx ∧ v = cy) ∧
    ∀ (r : Int) (fb : Framebuffer) (color : Color) (u v : Nat), fb.OnScreen u v →
      (Covers (quarter cx cy r left above) u v →
        (fillBoxes fb (quarter cx cy r left above) color).pendingAt u v =
          some (fb.panel.normalize color)) ∧
      (¬ Covers (quarter cx cy r left above) u v →
        (fillBoxes fb (quarter cx cy r left above) color).pendingAt u v = fb.pendingAt u v) := by
  refine ⟨?_, ?_, ?_⟩
  · intro r hr
    exact ⟨length_quarterSpans_le (by omega), fun u v => covers_quarter_iff_offsets hr⟩
  · intro u v
    exact covers_quarter_zero
  · intro r fb color u v ho
    exact ⟨pendingAt_fillBoxes fb _ color ho, pendingAt_fillBoxes_of_not fb _ color ho⟩

/-- The quarter disc of radius 3 to the left of and below its centre. Three columns out it has the second
row but not the third. -/
theorem quarter_disc_shape_of_three :
    (1 : Int) ≤ 3 ∧ Covers (quarter 10 20 3 true false) 7 21 ∧
      ¬ Covers (quarter 10 20 3 true false) 7 22 := by
  have hr : (1 : Int) ≤ 3 := by decide
  obtain ⟨-, disc⟩ := (quarter_disc_shape 10 20 true false).1 3 hr
  refine ⟨hr, (disc 7 21).2 ⟨3, 1, by decide⟩, ?_⟩
  intro hc
  obtain ⟨c, row, -, -, hu, hv, hin⟩ := (disc 7 22).1 hc
  rw [add_side_iff] at hu hv
  subst hu hv
  revert hin
  decide

end Seph.Bagl
