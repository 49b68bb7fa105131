import Mathlib.Data.Int.LeastGreatest
import Seph.Proofs.Bagl.Shape
import Seph.Proofs.Display.Drawing

/-!
# The shape of rounded rectangles

Strips and quarter discs overlap or abut as the sides and the radius will have it. Together they make
up one shape, which is that of a rectangle with its corners taken off.

1. `pendingAt_fillBoxes`: boxes that are filled leave their colour where one of them covers the point.
2. `covers_of_not_inCorner`: outside the squares at its corners a rounded rectangle covers all of its
   box, and so a part of every row and of every column.
3. `covers_mirror_columns`, `covers_mirror_rows`: it is its own mirror image.
4. `rounded_rectangle_shape`: what is painted, from all of this and from `Covers.between_columns` and
   `Covers.between_rows`.
-/

namespace Seph.Bagl

/-! ## Filling -/

section Fill

variable (fb : Framebuffer) (bs : List Box) (c : Color) {u v : Nat}

theorem pendingAt_fillBoxes (ho : fb.OnScreen u v) (h : Covers bs u v) :
    (fillBoxes fb bs c).pendingAt u v = some (fb.panel.normalize c) := by
  obtain ⟨b, hb, hc⟩ := h
  have hl : Framebuffer.lastColor? (Framebuffer.Stroke.boxes bs c) u v = some c := by
    refine Framebuffer.lastColor?_of_agree (fun s hs _ => ?_) ⟨⟨b, c⟩, List.mem_map_of_mem hb, hc⟩
    obtain ⟨b', -, rfl⟩ := List.mem_map.1 hs
    rfl
  rw [fillBoxes_eq_paint, Framebuffer.pendingAt_paint _ _ _ _ ho, hl]
  rfl

theorem pendingAt_fillBoxes_of_not (ho : fb.OnScreen u v) (h : ¬ Covers bs u v) :
    (fillBoxes fb bs c).pendingAt u v = fb.pendingAt u v := by
  have hl : Framebuffer.lastColor? (Framebuffer.Stroke.boxes bs c) u v = none := by
    refine Framebuffer.lastColor?_of_forall_not fun s hs hc => h ?_
    obtain ⟨b, hb, rfl⟩ := List.mem_map.1 hs
    exact ⟨b, hb, hc⟩
  rw [fillBoxes_eq_paint, Framebuffer.pendingAt_paint _ _ _ _ ho, hl]
  rfl

end Fill

/-! ## Corners -/

section Shape

variable {x y w h r u v : Int}

/-- A point of a rectangle lies in one of the squares of side `q` at its corners. -/
def InCorner (x y w h q u v : Int) : Prop :=
  (u < x + q ∨ x + w - q ≤ u) ∧ (v < y + q ∨ y + h - q ≤ v)

/-- **Outside the squares at its corners a rounded rectangle covers its box.** -/
theorem covers_of_not_inCorner (hc : (Box.mk x y w h).Contains u v)
    (hn : ¬ InCorner x y w h (cornerRadius w h r) u v) : Covers (rounded x y w h r) u v := by
  rw [Box.contains_mk] at hc
  unfold InCorner at hn
  have hw : 0 < w := by omega
  have hh : 0 < h := by omega
  have hb := cornerRadius_bounds (r := r) hw hh
  rcases eq_or_lt_of_le hb.1 with hq | hq
  · exact (covers_rounded_of_square hw hh hq.symm).2 hc
  · rw [covers_rounded_iff hw hh rfl hq]
    generalize cornerRadius w h r = q at *
    by_cases hmid : x + q ≤ u ∧ u ≤ x + w - q - 1
    · obtain ⟨b, hb', hbq⟩ := exists_beyond hq hb.2.2 hc.2.1 hc.2.2
      exact ⟨0, b, ⟨le_refl 0, .inr (.inr ⟨rfl, hmid⟩)⟩, hb', inDisc_comm.1 (inDisc_axis hq hb'.1 hbq)⟩
    · obtain ⟨a, ha, haq⟩ := exists_beyond hq hb.2.1 hc.1.1 hc.1.2
      exact ⟨a, 0, ha, ⟨le_refl 0, .inr (.inr ⟨rfl, by omega⟩)⟩, inDisc_axis hq ha.1 haq⟩

/-! ## Rows and columns -/

theorem cornerRadius_comm : cornerRadius w h r = cornerRadius h w r := by
  unfold cornerRadius
  rw [min_comm (w / 2)]

/-- Rows and columns change places with the sides of the rectangle. -/
theorem covers_transpose : Covers (rounded x y w h r) u v ↔ Covers (rounded y x h w r) v u := by
  by_cases hwh : 0 < w ∧ 0 < h
  · obtain ⟨hw, hh⟩ := hwh
    rcases eq_or_lt_of_le (cornerRadius_bounds (r := r) hw hh).1 with hq | hq
    · rw [covers_rounded_of_square hw hh hq.symm,
        covers_rounded_of_square hh hw (cornerRadius_comm.trans hq.symm), Box.contains_mk,
        Box.contains_mk]
      exact and_comm
    · rw [covers_rounded_iff hw hh rfl hq, covers_rounded_iff hh hw cornerRadius_comm hq]
      constructor
      · rintro ⟨a, b, ha, hb, hin⟩
        exact ⟨b, a, hb, ha, inDisc_comm.1 hin⟩
      · rintro ⟨b, a, hb, ha, hin⟩
        exact ⟨a, b, ha, hb, inDisc_comm.1 hin⟩
  · exact iff_of_false (fun hc => hwh (pos_of_covers hc)) fun hc => hwh (pos_of_covers hc).symm

/-- The middle column is covered from the first row to the last, also where two quarter discs meet in
it and there is no strip between them. -/
theorem covers_middle_column (hw : 0 < w) (hv : y ≤ v) (hv' : v < y + h) :
    Covers (rounded x y w h r) (x + w / 2) v := by
  have hh : 0 < h := by omega
  have hb := cornerRadius_bounds (r := r) hw hh
  rcases eq_or_lt_of_le hb.1 with hq | hq
  · rw [covers_rounded_of_square hw hh hq.symm, Box.contains_mk]
    omega
  · rw [covers_rounded_iff hw hh rfl hq]
    obtain ⟨b, hb', hbq⟩ := exists_beyond hq hb.2.2 hv hv'
    refine ⟨0, b, ?_, hb', inDisc_comm.1 (inDisc_axis hq hb'.1 hbq)⟩
    unfold Beyond
    omega

/-- Numbers within bounds that have none missing between them are all those from the least one to the
greatest. -/
theorem exists_interval {P : Int → Prop} {lo hi : Int} (bounds : ∀ u, P u → lo ≤ u ∧ u ≤ hi)
    (some : ∃ u, P u) (between : ∀ u₁ u₂ u, P u₁ → P u₂ → u₁ ≤ u → u ≤ u₂ → P u) :
    ∃ first last, first ≤ last ∧ ∀ u, P u ↔ first ≤ u ∧ u ≤ last := by
  obtain ⟨first, hf, least⟩ := Int.exists_least_of_bdd ⟨lo, fun u hu => (bounds u hu).1⟩ some
  obtain ⟨last, hl, greatest⟩ := Int.exists_greatest_of_bdd ⟨hi, fun u hu => (bounds u hu).2⟩ some
  refine ⟨first, last, least last hl, fun u => ⟨fun hu => ⟨least u hu, greatest u hu⟩, ?_⟩⟩
  rintro ⟨hfu, hul⟩
  exact between first last u hf hl hfu hul

/-- **Every row is met in one interval.** -/
theorem exists_row_interval (hw : 0 < w) (hv : y ≤ v) (hv' : v < y + h) :
    ∃ first last, first ≤ last ∧ ∀ u, Covers (rounded x y w h r) u v ↔ first ≤ u ∧ u ≤ last := by
  have hbounds : ∀ u, Covers (rounded x y w h r) u v → x ≤ u ∧ u ≤ x + w - 1 := by
    intro u hc
    have := (Box.contains_mk.1 hc.inside).1
    omega
  exact exists_interval hbounds ⟨_, covers_middle_column hw hv hv'⟩
    fun u₁ u₂ u h₁ h₂ => h₁.between_columns h₂

/-! ## Mirror images -/

theorem beyond_mirror {lo hi a : Int} : Beyond lo hi (lo + hi - u) a ↔ Beyond lo hi u a := by
  unfold Beyond
  omega

/-- **A rounded rectangle is its own mirror image.** -/
theorem covers_mirror :
    Covers (rounded x y w h r) (2 * x + w - 1 - u) v ↔ Covers (rounded x y w h r) u v := by
  by_cases hwh : 0 < w ∧ 0 < h
  · obtain ⟨hw, hh⟩ := hwh
    rcases eq_or_lt_of_le (cornerRadius_bounds (r := r) hw hh).1 with hq | hq
    · rw [covers_rounded_of_square hw hh hq.symm, covers_rounded_of_square hw hh hq.symm,
        Box.contains_mk, Box.contains_mk]
      omega
    · have hm : 2 * x + w - 1 - u =
          x + cornerRadius w h r + (x + w - cornerRadius w h r - 1) - u := by omega
      rw [covers_rounded_iff hw hh rfl hq, covers_rounded_iff hw hh rfl hq, hm]
      simp only [beyond_mirror]
  · exact iff_of_false (fun hc => hwh (pos_of_covers hc)) fun hc => hwh (pos_of_covers hc)

/-- **What is painted of a rounded rectangle.** The points that boxes cover are those that get the
colour, as far as they are on the screen. They lie in the box of the rectangle, and are all of it
outside the squares at its corners; they are the same after either reflection; and in every row and in
every column they are one interval, which is not empty. -/
theorem rounded_rectangle_shape (x y r : Int) (hw : 0 < w) (hh : 0 < h) :
    (∀ (fb : Framebuffer) (c : Color) (u v : Nat), fb.OnScreen u v →
      (Covers (rounded x y w h r) u v →
        (fillRounded fb x y w h r c).pendingAt u v = some (fb.panel.normalize c)) ∧
      (¬ Covers (rounded x y w h r) u v →
        (fillRounded fb x y w h r c).pendingAt u v = fb.pendingAt u v)) ∧
    (∀ u v, Covers (rounded x y w h r) u v → (Box.mk x y w h).Contains u v) ∧
    (∀ u v, (Box.mk x y w h).Contains u v →
      ¬ InCorner x y w h (max 0 (min r (min (w / 2) (h / 2)))) u v → Covers (rounded x y w h r) u v) ∧
    (∀ u v, (Covers (rounded x y w h r) (2 * x + w - 1 - u) v ↔ Covers (rounded x y w h r) u v) ∧
      (Covers (rounded x y w h r) u (2 * y + h - 1 - v) ↔ Covers (rounded x y w h r) u v)) ∧
    (∀ v, y ≤ v → v < y + h → ∃ first last, first ≤ last ∧
      ∀ u, Covers (rounded x y w h r) u v ↔ first ≤ u ∧ u ≤ last) ∧
    ∀ u, x ≤ u → u < x + w → ∃ first last, first ≤ last ∧
      ∀ v, Covers (rounded x y w h r) u v ↔ first ≤ v ∧ v ≤ last := by
  refine ⟨fun fb c u v ho => ⟨pendingAt_fillBoxes fb _ c ho, pendingAt_fillBoxes_of_not fb _ c ho⟩,
    fun u v hc => hc.inside, fun u v => covers_of_not_inCorner, fun u v => ⟨covers_mirror, ?_⟩,
    fun v => exists_row_interval hw, fun u hu hu' => ?_⟩
  · show Covers _ _ _ ↔ Covers _ _ _
    rw [covers_transpose, covers_mirror, covers_transpose]
  · obtain ⟨first, last, hle, hrow⟩ := exists_row_interval (r := r) (x := y) hh hu hu'
    exact ⟨first, last, hle, fun v => covers_transpose.trans (hrow v)⟩

/-- A rectangle of 7 columns and 6 rows that begins beside the screen. Of the radius 5 half of its rows
leaves 3, and in its first row the interval is that of the three columns in the middle. -/
theorem rounded_rectangle_shape_of_seven_by_six :
    (0 : Int) < 7 ∧ (0 : Int) < 6 ∧ max 0 (min 5 (min (7 / 2) (6 / 2))) = (3 : Int) ∧
      ¬ InCorner (-2) 1 7 6 3 1 1 ∧ Covers (rounded (-2) 1 7 6 5) 1 1 ∧
      ∀ u, Covers (rounded (-2) 1 7 6 5) u 1 ↔ 0 ≤ u ∧ u ≤ 2 := by
  have hw : (0 : Int) < 7 := by decide
  have hh : (0 : Int) < 6 := by decide
  have hq : max 0 (min 5 (min (7 / 2) (6 / 2))) = (3 : Int) := by decide
  have hn : ¬ InCorner (-2) 1 7 6 3 1 1 := by unfold InCorner; omega
  obtain ⟨-, -, straight, mirror, row, -⟩ := rounded_rectangle_shape (-2) 1 5 hw hh
  rw [hq] at straight
  refine ⟨hw, hh, hq, hn, straight _ _ ?_ hn, ?_⟩
  · rw [Box.contains_mk]
    omega
  obtain ⟨first, last, -, hrow⟩ := row 1 (by decide) (by decide)
  have disc (u : Int) := covers_rounded_iff (x := -2) (y := 1) (u := u) (v := 1) hw hh hq (by decide)
  have reached : Covers (rounded (-2) 1 7 6 5) 0 1 :=
    (disc 0).2 ⟨1, 3, by unfold Beyond; omega, by unfold Beyond; omega, by unfold InDisc; decide⟩
  have missed : ¬ Covers (rounded (-2) 1 7 6 5) (-1) 1 := by
    intro hc
    obtain ⟨a, b, ha, hb, hin⟩ := (disc (-1)).1 hc
    unfold Beyond at ha hb
    obtain rfl : a = 2 := by omega
    obtain rfl : b = 3 := by omega
    unfold InDisc at hin
    revert hin
    decide
  -- the right end is the mirror image of the left one
  have reached' := (mirror 0 1).1.2 reached
  have missed' := mt (mirror (-1) 1).1.1 missed
  intro u
  have h₀ := (hrow 0).1 reached
  have h₁ := mt (hrow (-1)).2 missed
  have h₂ := (hrow 2).1 reached'
  have h₃ := mt (hrow 3).2 missed'
  rw [hrow]
  omega

end Shape

end Seph.Bagl
