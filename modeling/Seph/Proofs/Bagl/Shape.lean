import Mathlib.Tactic.Linarith
import Mathlib.Tactic.Ring
import Seph.Bagl.Shape

/-!
# Discs and rounded rectangles

The midpoint method gives the quarter disc row by row, and some rows twice; what it fills all in all is
said without it here.

1. `exists_span_iff`: the point `c` columns and `row` rows from the centre of a quarter disc is filled if
   and only if `InDisc r c row`, a condition on the two numbers alone that holds of all points nearer to
   the centre too.
2. `covers_rounded_iff`: a point of a rounded rectangle is told by how far it lies beyond the centres of
   the corners, across and down.
3. `Covers.between_columns`, `Covers.between_rows`: a rounded rectangle has no holes.
4. `covers_of_inner`: a border is drawn around what the rectangle covers.
-/

namespace Seph.Bagl

/-! ## Discs -/

/-- The point `c` columns and `row` rows from the centre lies in the disc of radius `r`. -/
def InDisc (r c row : Int) : Prop :=
  max c row * max c row + min c row * min c row - max c row < r * r

section Disc

variable {r s c d row : Int}

theorem inDisc_comm : InDisc r c row ↔ InDisc r row c := by
  rw [InDisc, InDisc, max_comm, min_comm]

theorem inDisc_of_row_le (h : row ≤ c) : InDisc r c row ↔ c * c + row * row - c < r * r := by
  rw [InDisc, max_eq_left h, min_eq_right h]

theorem inDisc_of_le_row (h : c ≤ row) : InDisc r c row ↔ row * row + c * c - row < r * r := by
  rw [inDisc_comm, inDisc_of_row_le h]

theorem mul_self_sub_le {a b : Int} (ha : 0 ≤ a) (h : a ≤ b) : a * a - a ≤ b * b - b := by
  rcases eq_or_lt_of_le h with rfl | hlt
  · exact le_refl _
  · have hd : 0 ≤ b - a := by omega
    have hs : 0 ≤ b + a - 1 := by omega
    nlinarith [mul_nonneg hd hs]

theorem InDisc.of_le (h : InDisc r c row) (hd : 0 ≤ d) (hdc : d ≤ c) (hr : 0 ≤ row) : InDisc r d row := by
  rcases le_total row c with hrc | hcr
  · rw [inDisc_of_row_le hrc] at h
    rcases le_total row d with hrd | hdr
    · rw [inDisc_of_row_le hrd]
      have := mul_self_sub_le hd hdc
      omega
    · rw [inDisc_of_le_row hdr]
      have := mul_self_sub_le hr hrc
      have := mul_self_le_mul_self hd hdr
      omega
  · rw [inDisc_of_le_row hcr] at h
    rw [inDisc_of_le_row (hdc.trans hcr)]
    have := mul_self_le_mul_self hd hdc
    omega

theorem InDisc.mono {row' : Int} (h : InDisc r c row) (hd : 0 ≤ d) (hdc : d ≤ c) (hr : 0 ≤ row')
    (hrr : row' ≤ row) : InDisc r d row' :=
  inDisc_comm.1 ((inDisc_comm.1 (h.of_le hd hdc (hr.trans hrr))).of_le hr hrr hd)

theorem InDisc.radius (h : InDisc r c row) (hr : 0 ≤ r) (hs : r ≤ s) : InDisc s c row :=
  lt_of_lt_of_le h (mul_self_le_mul_self hr hs)

theorem inDisc_axis (hr : 1 ≤ r) (hc : 0 ≤ c) (hcr : c ≤ r) : InDisc r c 0 := by
  rw [inDisc_of_row_le hc]
  have := mul_self_sub_le hc hcr
  omega

theorem InDisc.le (h : InDisc r c row) (hr : 0 ≤ r) (hrow : 0 ≤ row) : c ≤ r := by
  by_contra hlt
  have hc : r + 1 ≤ c := by omega
  have h0 : InDisc r (r + 1) 0 := h.mono (by omega) hc (le_refl 0) hrow
  rw [inDisc_of_row_le (by omega)] at h0
  nlinarith

end Disc

/-! ## Spans -/

/-- The point `(dx, dy)` lies on the edge of a disc of radius `r`: it belongs to the disc if it is not
beyond the diagonal, its neighbour outwards does not, and `err` is what decides on the next point. -/
structure OnEdge (r dx dy err : Int) : Prop where
  nonneg : 0 ≤ dy
  err_eq : err = dx * dx - dx + (dy + 1) * (dy + 1) - r * r
  inside : dy ≤ dx → dx * dx - dx + dy * dy < r * r
  outside : r * r ≤ dx * dx + dx + dy * dy

namespace OnEdge

variable {r dx dy err : Int}

theorem start (hr : 1 ≤ r) : OnEdge r r 0 (1 - r) where
  nonneg := le_refl 0
  err_eq := by ring
  inside _ := by omega
  outside := by nlinarith

theorem down (h : OnEdge r dx dy err) (he : err < 0) :
    OnEdge r dx (dy + 1) (err + (2 * (dy + 1) + 1)) where
  nonneg := by have := h.nonneg; omega
  err_eq := by rw [h.err_eq]; ring
  inside _ := by have := h.err_eq; omega
  outside := by have := h.outside; have := h.nonneg; nlinarith

theorem inwards (h : OnEdge r dx dy err) (hd : dy ≤ dx) (he : ¬ err < 0) :
    OnEdge r (dx - 1) (dy + 1) (err + (2 * (dy + 1 - (dx - 1)) + 1)) where
  nonneg := by have := h.nonneg; omega
  err_eq := by rw [h.err_eq]; ring
  inside hd' := by have := h.inside hd; nlinarith
  outside := by have := h.err_eq; nlinarith

theorem inDisc_row (h : OnEdge r dx dy err) (hd : dy ≤ dx) {c : Int} (hc : 0 ≤ c) :
    InDisc r c dy ↔ c ≤ dx := by
  have hedge : InDisc r dx dy := (inDisc_of_row_le hd).2 (by have := h.inside hd; omega)
  constructor
  · intro hin
    by_contra hlt
    have hn : InDisc r (dx + 1) dy := hin.of_le (by have := h.nonneg; omega) (by omega) h.nonneg
    rw [inDisc_of_row_le (by omega)] at hn
    have := h.outside
    nlinarith
  · intro hle
    exact hedge.of_le hc hle h.nonneg

/-- Where the edge turns inwards, the row that is as far from the centre as `dx` reaches to `dy`. -/
theorem inDisc_turn (h : OnEdge r dx dy err) (hd : dy ≤ dx) (he : ¬ err < 0) {c : Int} (hc : 0 ≤ c)
    (hlt : dy < dx) : InDisc r c dx ↔ c ≤ dy := by
  have hedge : InDisc r dx dy := (h.inDisc_row hd (by have := h.nonneg; omega)).2 (le_refl dx)
  constructor
  · intro hin
    by_contra hn
    have hnext : InDisc r (dy + 1) dx :=
      hin.of_le (by have := h.nonneg; omega) (by omega) (by have := h.nonneg; omega)
    rw [inDisc_of_le_row (by omega)] at hnext
    have := h.err_eq
    omega
  · intro hle
    exact (inDisc_comm.1 hedge).of_le hc hle (by have := h.nonneg; omega)

end OnEdge

theorem row_of_mem_spansFrom {dx dy err row e : Int} (h : (row, e) ∈ spansFrom dx dy err) :
    dy ≤ row ∧ row ≤ dx := by
  fun_induction spansFrom dx dy err with
  | case1 dx dy err hd down inwards =>
    simp only [List.mem_cons, Prod.mk.injEq] at h
    rcases h with ⟨rfl, -⟩ | ⟨rfl, -⟩ | h
    · omega
    · omega
    · split at h
      · have := down h
        omega
      · have := inwards h
        omega
  | case2 => cases h

/-- **The spans from a point on fill the rows that are left.** -/
theorem exists_span_from_iff {r dx dy err : Int} (h : OnEdge r dx dy err) {c row : Int} (hc : 0 ≤ c)
    (hr : dy ≤ row) (hr' : row ≤ dx) :
    (∃ e, (row, e) ∈ spansFrom dx dy err ∧ c ≤ e) ↔ InDisc r c row := by
  fun_induction spansFrom dx dy err with
  | case1 dx dy err hd down inwards =>
    have hn := h.nonneg
    simp only [List.mem_cons, Prod.mk.injEq]
    rcases eq_or_lt_of_le hr with rfl | hlt
    · -- the row of the point itself
      rw [h.inDisc_row hd hc]
      constructor
      · rintro ⟨e, ⟨-, rfl⟩ | ⟨-, rfl⟩ | hm, hce⟩
        · exact hce
        · omega
        · split at hm
          · have := row_of_mem_spansFrom hm
            omega
          · have := row_of_mem_spansFrom hm
            omega
      · intro hce
        exact ⟨dx, .inl ⟨rfl, rfl⟩, hce⟩
    · by_cases hneg : err < 0
      · rw [if_pos hneg, ← down (h.down hneg) (by omega) hr']
        have mirrored (hce : c ≤ dy) : InDisc r c dx :=
          (inDisc_comm.1 ((h.inDisc_row hd (by omega)).2 (le_refl dx))).of_le hc hce (by omega)
        constructor
        · rintro ⟨e, ⟨he, -⟩ | ⟨hrow, he⟩ | hm, hce⟩
          · omega
          · -- the mirrored span is within what the rows below give
            refine (down (h.down hneg) (by omega) hr').2 ?_
            rw [hrow]
            exact mirrored (he ▸ hce)
          · exact ⟨e, hm, hce⟩
        · rintro ⟨e, hm, hce⟩
          exact ⟨e, .inr (.inr hm), hce⟩
      · rw [if_neg hneg]
        rcases eq_or_lt_of_le hr' with rfl | hlt'
        · rw [h.inDisc_turn hd hneg hc hlt]
          constructor
          · rintro ⟨e, ⟨rfl, -⟩ | ⟨-, rfl⟩ | hm, hce⟩
            · omega
            · exact hce
            · have := row_of_mem_spansFrom hm
              omega
          · intro hce
            exact ⟨dy, .inr (.inl ⟨rfl, rfl⟩), hce⟩
        · rw [← inwards (h.inwards hd hneg) (by omega) (by omega)]
          constructor
          · rintro ⟨e, ⟨rfl, -⟩ | ⟨rfl, -⟩ | hm, hce⟩
            · omega
            · omega
            · exact ⟨e, hm, hce⟩
          · rintro ⟨e, hm, hce⟩
            exact ⟨e, .inr (.inr hm), hce⟩
  | case2 => omega

/-- **A quarter disc is filled exactly.** -/
theorem exists_span_iff {r c row : Int} (hr : 1 ≤ r) (hc : 0 ≤ c) (hrow : 0 ≤ row) :
    (∃ e, (row, e) ∈ quarterSpans r ∧ c ≤ e) ↔ InDisc r c row := by
  rcases le_or_gt row r with hle | hlt
  · exact exists_span_from_iff (.start hr) hc hrow hle
  · constructor
    · rintro ⟨e, hm, -⟩
      have := row_of_mem_spansFrom hm
      omega
    · intro hin
      have := (inDisc_comm.1 hin).le (by omega) hc
      omega

/-! ## What boxes cover -/

/-- A point lies in one of the boxes. -/
def Covers (bs : List Box) (x y : Int) : Prop := ∃ b ∈ bs, b.Contains x y

section Covers

variable {x y w h r u v : Int}

theorem Box.contains_mk : (Box.mk x y w h).Contains u v ↔ (x ≤ u ∧ u < x + w) ∧ y ≤ v ∧ v < y + h :=
  Iff.rfl

theorem covers_nil : ¬ Covers [] u v := by simp [Covers]

theorem covers_cons {b : Box} {bs : List Box} : Covers (b :: bs) u v ↔ b.Contains u v ∨ Covers bs u v := by
  simp [Covers]

theorem covers_append {bs cs : List Box} : Covers (bs ++ cs) u v ↔ Covers bs u v ∨ Covers cs u v := by
  simp [Covers, or_and_right, exists_or]

theorem covers_singleton {b : Box} : Covers [b] u v ↔ b.Contains u v := by
  simp [Covers]

theorem covers_quarter_iff {cx cy : Int} (hr : 1 ≤ r) (left above : Bool) :
    Covers (quarter cx cy r left above) u v ↔
      let c := if left then cx - u else u - cx
      let row := if above then cy - v else v - cy
      0 ≤ c ∧ 0 ≤ row ∧ InDisc r c row := by
  have hbox (row e : Int) :
      (Box.mk (if left then cx - e else cx) (if above then cy - row else cy + row) (e + 1) 1).Contains u v ↔
        (if above then cy - v else v - cy) = row ∧
        0 ≤ (if left then cx - u else u - cx) ∧ (if left then cx - u else u - cx) ≤ e := by
    unfold Box.Contains
    cases left <;> cases above <;> simp <;> omega
  simp only [Covers, quarter, List.mem_map]
  constructor
  · rintro ⟨_, ⟨⟨row, e⟩, hm, rfl⟩, hc⟩
    obtain ⟨hrow, hc, hce⟩ := (hbox row e).1 hc
    have hrow0 := (row_of_mem_spansFrom hm).1
    rw [hrow]
    exact ⟨hc, hrow0, (exists_span_iff hr hc hrow0).1 ⟨e, hm, hce⟩⟩
  · rintro ⟨hc, hrow, hin⟩
    obtain ⟨e, hm, hce⟩ := (exists_span_iff hr hc hrow).2 hin
    exact ⟨_, ⟨_, hm, rfl⟩, (hbox _ e).2 ⟨rfl, hc, hce⟩⟩

/-! ## Rounded rectangles -/

/-- The radius of the corners of a rectangle: at most half of either side. -/
def cornerRadius (w h r : Int) : Int := max 0 (min r (min (w / 2) (h / 2)))

theorem cornerRadius_bounds (hw : 0 < w) (hh : 0 < h) :
    0 ≤ cornerRadius w h r ∧ 2 * cornerRadius w h r ≤ w ∧ 2 * cornerRadius w h r ≤ h := by
  unfold cornerRadius
  omega

/-- A coordinate lies `a` beyond the nearer centre, or between the centres `lo` and `hi`. -/
def Beyond (lo hi u a : Int) : Prop := 0 ≤ a ∧ (a = lo - u ∨ a = u - hi ∨ a = 0 ∧ lo ≤ u ∧ u ≤ hi)

/-- Inside the rectangle, a coordinate lies at most the radius beyond the nearer centre, and one that does
not lie farther is inside. -/
theorem exists_beyond {q : Int} (hq : 1 ≤ q) (hw : 2 * q ≤ w) (hu : x ≤ u) (hu' : u < x + w) :
    ∃ a, Beyond (x + q) (x + w - q - 1) u a ∧ a ≤ q := by
  unfold Beyond
  rcases le_or_gt u (x + q) with hl | hl
  · exact ⟨x + q - u, by omega, by omega⟩
  · rcases le_or_gt u (x + w - q - 1) with hr | hr
    · exact ⟨0, by omega, by omega⟩
    · exact ⟨u - (x + w - q - 1), by omega, by omega⟩

theorem Beyond.inside {q a : Int} (h : Beyond (x + q) (x + w - q - 1) u a) (ha : a ≤ q) (hq : 1 ≤ q)
    (hw : 2 * q ≤ w) : x ≤ u ∧ u < x + w := by
  unfold Beyond at h
  omega

theorem covers_rounded_of_square (hw : 0 < w) (hh : 0 < h) (hq : cornerRadius w h r = 0) :
    Covers (rounded x y w h r) u v ↔ (Box.mk x y w h).Contains u v := by
  unfold cornerRadius at hq
  unfold rounded
  rw [if_neg (by omega)]
  dsimp only
  rw [if_pos hq, covers_singleton]

theorem covers_strips_iff {q : Int} (hq : 1 ≤ q) (hw : 2 * q ≤ w) :
    Covers [⟨x + q, y, w - 2 * q, h⟩, ⟨x, y + q, q, h - 2 * q⟩, ⟨x + w - q, y + q, q, h - 2 * q⟩] u v ↔
      (Box.mk x y w h).Contains u v ∧
        (x + q ≤ u ∧ u ≤ x + w - q - 1 ∨ y + q ≤ v ∧ v ≤ y + h - q - 1) := by
  simp only [covers_cons, covers_nil, or_false, Box.Contains]
  constructor
  · rintro (h | h | h)
    · omega
    · omega
    · omega
  · rintro ⟨h, hu | hv⟩
    · omega
    · omega

theorem covers_corners_iff {q left right top bottom : Int} (hq : 1 ≤ q) :
    Covers (quarter left top q true true ++ quarter right top q false true ++
      quarter left bottom q true false ++ quarter right bottom q false false) u v ↔
      ∃ a b, 0 ≤ a ∧ 0 ≤ b ∧ (a = left - u ∨ a = u - right) ∧ (b = top - v ∨ b = v - bottom) ∧
        InDisc q a b := by
  simp only [covers_append, covers_quarter_iff hq]
  constructor
  · rintro (((⟨ha, hb, hin⟩ | ⟨ha, hb, hin⟩) | ⟨ha, hb, hin⟩) | ⟨ha, hb, hin⟩)
    · exact ⟨_, _, ha, hb, .inl rfl, .inl rfl, hin⟩
    · exact ⟨_, _, ha, hb, .inr rfl, .inl rfl, hin⟩
    · exact ⟨_, _, ha, hb, .inl rfl, .inr rfl, hin⟩
    · exact ⟨_, _, ha, hb, .inr rfl, .inr rfl, hin⟩
  · rintro ⟨a, b, ha, hb, rfl | rfl, rfl | rfl, hin⟩
    · exact .inl (.inl (.inl ⟨ha, hb, hin⟩))
    · exact .inl (.inr ⟨ha, hb, hin⟩)
    · exact .inl (.inl (.inr ⟨ha, hb, hin⟩))
    · exact .inr ⟨ha, hb, hin⟩

/-- **What a rectangle with rounded corners covers** is told by how far a point lies beyond the centres of
the corners: its distances from a centre are those of a point in the disc. -/
theorem covers_rounded_iff (hw : 0 < w) (hh : 0 < h) {q : Int} (hq : cornerRadius w h r = q)
    (hq1 : 1 ≤ q) :
    Covers (rounded x y w h r) u v ↔
      ∃ a b, Beyond (x + q) (x + w - q - 1) u a ∧ Beyond (y + q) (y + h - q - 1) v b ∧ InDisc q a b := by
  have hb := cornerRadius_bounds (r := r) hw hh
  rw [hq] at hb
  have hr : rounded x y w h r = [⟨x + q, y, w - 2 * q, h⟩, ⟨x, y + q, q, h - 2 * q⟩,
      ⟨x + w - q, y + q, q, h - 2 * q⟩] ++
      (quarter (x + q) (y + q) q true true ++ quarter (x + w - q - 1) (y + q) q false true ++
      quarter (x + q) (y + h - q - 1) q true false ++
      quarter (x + w - q - 1) (y + h - q - 1) q false false) := by
    unfold cornerRadius at hq
    unfold rounded
    rw [if_neg (by omega)]
    dsimp only
    rw [hq, if_neg (by omega)]
    simp only [List.append_assoc]
  rw [hr, covers_append, covers_strips_iff hq1 hb.2.1, covers_corners_iff hq1]
  constructor
  · rintro (⟨⟨hu, hv⟩, hmid | hmid⟩ | ⟨a, b, ha, hb, hu, hv, hin⟩)
    · obtain ⟨b, hb', hbq⟩ := exists_beyond hq1 hb.2.2 hv.1 hv.2
      exact ⟨0, b, ⟨le_refl 0, .inr (.inr ⟨rfl, hmid⟩)⟩, hb', inDisc_comm.1 (inDisc_axis hq1 hb'.1 hbq)⟩
    · obtain ⟨a, ha', haq⟩ := exists_beyond hq1 hb.2.1 hu.1 hu.2
      exact ⟨a, 0, ha', ⟨le_refl 0, .inr (.inr ⟨rfl, hmid⟩)⟩, inDisc_axis hq1 ha'.1 haq⟩
    · exact ⟨a, b, ⟨ha, hu.imp_right .inl⟩, ⟨hb, hv.imp_right .inl⟩, hin⟩
  · rintro ⟨a, b, ha, hb', hin⟩
    have haq : a ≤ q := hin.le hb.1 hb'.1
    have hbq : b ≤ q := (inDisc_comm.1 hin).le hb.1 ha.1
    have hbox : (Box.mk x y w h).Contains u v :=
      ⟨ha.inside haq hq1 hb.2.1, hb'.inside hbq hq1 hb.2.2⟩
    rcases ha with ⟨ha, hu | hu | ⟨-, hu⟩⟩
    · rcases hb' with ⟨hb', hv | hv | ⟨-, hv⟩⟩
      · exact .inr ⟨a, b, ha, hb', .inl hu, .inl hv, hin⟩
      · exact .inr ⟨a, b, ha, hb', .inl hu, .inr hv, hin⟩
      · exact .inl ⟨hbox, .inr hv⟩
    · rcases hb' with ⟨hb', hv | hv | ⟨-, hv⟩⟩
      · exact .inr ⟨a, b, ha, hb', .inr hu, .inl hv, hin⟩
      · exact .inr ⟨a, b, ha, hb', .inr hu, .inr hv, hin⟩
      · exact .inl ⟨hbox, .inr hv⟩
    · exact .inl ⟨hbox, .inl hu⟩

theorem pos_of_covers (hc : Covers (rounded x y w h r) u v) : 0 < w ∧ 0 < h := by
  by_contra hn
  rw [rounded, if_pos (by omega)] at hc
  exact covers_nil hc

theorem Covers.inside (hc : Covers (rounded x y w h r) u v) : (Box.mk x y w h).Contains u v := by
  obtain ⟨hw, hh⟩ := pos_of_covers hc
  have hb := cornerRadius_bounds (r := r) hw hh
  rcases eq_or_lt_of_le hb.1 with hq | hq
  · exact (covers_rounded_of_square hw hh hq.symm).1 hc
  · obtain ⟨a, b, ha, hb', hin⟩ := (covers_rounded_iff hw hh rfl hq).1 hc
    exact ⟨ha.inside (hin.le hb.1 hb'.1) hq hb.2.1,
      hb'.inside ((inDisc_comm.1 hin).le hb.1 ha.1) hq hb.2.2⟩

/-! ### No holes -/

/-- Between two coordinates there is none that lies farther beyond the centres than both. -/
theorem Beyond.between {lo hi u₁ u₂ a₁ a₂ : Int} (h₁ : Beyond lo hi u₁ a₁) (h₂ : Beyond lo hi u₂ a₂)
    (hc : lo ≤ hi + 1) (hl : u₁ ≤ u) (hr : u ≤ u₂) :
    ∃ a, Beyond lo hi u a ∧ (a ≤ a₁ ∨ a ≤ a₂) := by
  unfold Beyond at *
  by_cases hmid : u = lo ∨ u = hi ∨ lo ≤ u ∧ u ≤ hi
  · exact ⟨0, by omega, .inl h₁.1⟩
  · rcases lt_or_ge u lo with hlt | hge
    · exact ⟨lo - u, by omega, .inl (by omega)⟩
    · exact ⟨u - hi, by omega, .inr (by omega)⟩

theorem Covers.between_columns {u₁ u₂ : Int} (h₁ : Covers (rounded x y w h r) u₁ v)
    (h₂ : Covers (rounded x y w h r) u₂ v) (hl : u₁ ≤ u) (hr : u ≤ u₂) :
    Covers (rounded x y w h r) u v := by
  obtain ⟨hw, hh⟩ := pos_of_covers h₁
  have hb := cornerRadius_bounds (r := r) hw hh
  rcases eq_or_lt_of_le hb.1 with hq | hq
  · rw [covers_rounded_of_square hw hh hq.symm, Box.contains_mk] at *
    omega
  · rw [covers_rounded_iff hw hh rfl hq] at *
    obtain ⟨a₁, b₁, ha₁, hb₁, hin₁⟩ := h₁
    obtain ⟨a₂, b₂, ha₂, hb₂, hin₂⟩ := h₂
    obtain ⟨a, ha, hle | hle⟩ := ha₁.between ha₂ (by omega) hl hr
    · exact ⟨a, b₁, ha, hb₁, hin₁.of_le ha.1 hle hb₁.1⟩
    · exact ⟨a, b₂, ha, hb₂, hin₂.of_le ha.1 hle hb₂.1⟩

theorem Covers.between_rows {v₁ v₂ : Int} (h₁ : Covers (rounded x y w h r) u v₁)
    (h₂ : Covers (rounded x y w h r) u v₂) (hl : v₁ ≤ v) (hr : v ≤ v₂) :
    Covers (rounded x y w h r) u v := by
  obtain ⟨hw, hh⟩ := pos_of_covers h₁
  have hb := cornerRadius_bounds (r := r) hw hh
  rcases eq_or_lt_of_le hb.1 with hq | hq
  · rw [covers_rounded_of_square hw hh hq.symm, Box.contains_mk] at *
    omega
  · rw [covers_rounded_iff hw hh rfl hq] at *
    obtain ⟨a₁, b₁, ha₁, hb₁, hin₁⟩ := h₁
    obtain ⟨a₂, b₂, ha₂, hb₂, hin₂⟩ := h₂
    obtain ⟨b, hb', hle | hle⟩ := hb₁.between hb₂ (by omega) hl hr
    · exact ⟨a₁, b, ha₁, hb', hin₁.mono ha₁.1 (le_refl a₁) hb'.1 hle⟩
    · exact ⟨a₂, b, ha₂, hb', hin₂.mono ha₂.1 (le_refl a₂) hb'.1 hle⟩

/-- **A rounded rectangle has no holes**: with the corners of a box it covers all of it. -/
theorem Covers.of_corners {x₁ x₂ y₁ y₂ : Int} (h₁₁ : Covers (rounded x y w h r) x₁ y₁)
    (h₂₁ : Covers (rounded x y w h r) x₂ y₁) (h₁₂ : Covers (rounded x y w h r) x₁ y₂)
    (h₂₂ : Covers (rounded x y w h r) x₂ y₂) (hu : x₁ ≤ u ∧ u ≤ x₂) (hv : y₁ ≤ v ∧ v ≤ y₂) :
    Covers (rounded x y w h r) u v :=
  (h₁₁.between_columns h₂₁ hu.1 hu.2).between_rows (h₁₂.between_columns h₂₂ hu.1 hu.2) hv.1 hv.2

/-! ### Borders -/

/-- The corners within a border have the same centres as those around it, or none. -/
theorem cornerRadius_inner {s : Int} (hr : 0 ≤ r) (hw : 0 < w - 2 * s) (hh : 0 < h - 2 * s) (hs : 0 ≤ s) :
    cornerRadius (w - 2 * s) (h - 2 * s) (r - s) = max 0 (cornerRadius w h r - s) := by
  unfold cornerRadius
  omega

/-- **What lies within a border is covered by the rectangle around it.** -/
theorem covers_of_inner {s : Int} (hr : 0 ≤ r) (hs : 0 ≤ s)
    (hc : Covers (rounded (x + s) (y + s) (w - 2 * s) (h - 2 * s) (r - s)) u v) :
    Covers (rounded x y w h r) u v := by
  obtain ⟨hw', hh'⟩ := pos_of_covers hc
  have hw : 0 < w := by omega
  have hh : 0 < h := by omega
  have hi := cornerRadius_inner hr hw' hh' hs
  have hb := cornerRadius_bounds (r := r) hw hh
  have hbox := Box.contains_mk.1 hc.inside
  generalize hq : cornerRadius w h r = q at hi hb
  rcases eq_or_lt_of_le hb.1 with hq0 | hq1
  · rw [covers_rounded_of_square hw hh (hq.trans hq0.symm), Box.contains_mk]
    omega
  · rw [covers_rounded_iff hw hh hq hq1]
    rcases le_or_gt q s with hqs | hqs
    · -- the border is as wide as the corners: what lies within it lies between their centres
      exact ⟨0, 0, ⟨le_refl 0, .inr (.inr (by omega))⟩, ⟨le_refl 0, .inr (.inr (by omega))⟩,
        inDisc_axis hq1 (le_refl 0) hb.1⟩
    · have hi' : cornerRadius (w - 2 * s) (h - 2 * s) (r - s) = q - s := by omega
      obtain ⟨a, b, ha, hb', hin⟩ := (covers_rounded_iff hw' hh' hi' (by omega)).1 hc
      unfold Beyond at *
      exact ⟨a, b, by omega, by omega, hin.radius (by omega) (by omega)⟩

end Covers

end Seph.Bagl
