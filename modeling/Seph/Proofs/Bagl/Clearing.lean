import Seph.Proofs.Bagl.Payload
import Seph.Proofs.Bagl.Shape
import Seph.Proofs.Display.Drawing

/-!
# Rectangles that clear the screen

A rectangle clears the text that was read if its corner is not inside the screen and it is at least as
large. Whether it also paints the whole screen is another matter: it may begin so far to the left that
it ends before the right edge, and round corners leave the corners of the screen out.

1. `paints_iff`: a drawing paints a point if and only if one of its strokes covers it.
2. `exists_rectangle_stroke_iff`: the strokes of a rectangle cover what its outline covers, whether it is
   filled or not.
3. `rectangle_clears_and_paints`: which rectangles clear, which paint the whole screen, and that those
   that paint it clear.
-/

namespace Seph

open Framebuffer (Stroke lastColor? lastColor?_of_forall_not)

namespace Framebuffer

theorem exists_lastColor?_iff {ss : List Stroke} {x y : Nat} :
    (∃ c, lastColor? ss x y = some c) ↔ ∃ s ∈ ss, s.box.Contains x y := by
  constructor
  · rintro ⟨c, h⟩
    by_contra hn
    rw [lastColor?_of_forall_not fun s hs hc => hn ⟨s, hs, hc⟩] at h
    cases h
  · rintro ⟨s, hs, hc⟩
    have hf : (ss.reverse.find? fun s => s.box.Contains x y).isSome := by
      rw [List.find?_isSome]
      exact ⟨s, List.mem_reverse.2 hs, decide_eq_true hc⟩
    obtain ⟨t, ht⟩ := Option.isSome_iff_exists.1 hf
    exact ⟨t.color, by rw [lastColor?, ht]; rfl⟩

theorem normalize_white (p : Panel) : p.normalize white = white := by
  unfold Panel.normalize
  cases p.monochrome <;> decide

theorem exists_white (panel : Panel) : ∃ fb : Framebuffer, fb.panel = panel ∧
    ∀ x y, x < panel.width → y < panel.height → fb.pixel? x y = some white := by
  let all : Stroke := ⟨⟨0, 0, panel.width, panel.height⟩, white⟩
  refine ⟨(blank panel).paint [all], panel_paint _ _, fun x y hx hy => ?_⟩
  have hc : all.box.Contains x y := by
    unfold Bagl.Box.Contains
    dsimp only [all]
    omega
  rw [pixel?_paint _ _ _ _ ⟨hx, hy⟩, lastColor?_singleton, if_pos hc, Option.map_some, normalize_white]
  rfl

end Framebuffer

namespace Bagl

namespace Drawing

/-! ## Points that a drawing paints -/

/-- A drawing leaves its own colour at a point, whatever was there before. -/
def Paints (d : Drawing) (panel : Panel) (x y : Nat) : Prop :=
  ∃ color, ∀ canvas : Canvas, canvas.frame.panel = panel → (d.draw canvas).frame.pixel? x y = some color

/-- A drawing leaves nothing of the picture before it. -/
def PaintsAll (d : Drawing) (panel : Panel) : Prop :=
  ∀ x y, x < panel.width → y < panel.height → d.Paints panel x y

/-- A drawing says that the screen was cleared. -/
def Clears (d : Drawing) (panel : Panel) : Prop :=
  ∀ canvas : Canvas, canvas.frame.panel = panel → (d.draw canvas).text = canvas.text.clearScreen

/-- **A point is painted where a stroke covers it.** -/
theorem paints_iff {d : Drawing} {panel : Panel} {x y : Nat} (hx : x < panel.width)
    (hy : y < panel.height) : d.Paints panel x y ↔ ∃ s ∈ d.strokes, s.box.Contains x y := by
  have drawn {canvas : Canvas} (hp : canvas.frame.panel = panel) :
      (d.draw canvas).frame.pixel? x y =
        ((lastColor? d.strokes x y).map panel.normalize).or (canvas.frame.pixel? x y) := by
    rw [frame_draw, Framebuffer.pixel?_paint _ _ _ _ (by rw [← hp] at hx hy; exact ⟨hx, hy⟩), hp]
  constructor
  · rintro ⟨color, h⟩
    by_contra hn
    have hl : lastColor? d.strokes x y = none := lastColor?_of_forall_not fun s hs hc => hn ⟨s, hs, hc⟩
    -- what was black stays black, and what was white stays white
    obtain ⟨fb, hp, hw⟩ := Framebuffer.exists_white panel
    have black := h ⟨Framebuffer.blank panel, ScreenText.empty 0⟩ rfl
    have white := h ⟨fb, ScreenText.empty 0⟩ hp
    rw [drawn rfl, hl, Framebuffer.pixel?_blank ⟨hx, hy⟩] at black
    rw [drawn hp, hl, hw x y hx hy] at white
    cases Option.some.inj black
    exact absurd (Option.some.inj white) (by decide)
  · intro hs
    obtain ⟨c, hc⟩ := Framebuffer.exists_lastColor?_iff.2 hs
    exact ⟨panel.normalize c, fun canvas hp => by rw [drawn hp, hc]; rfl⟩

/-! ## Rectangles -/

variable {c : Component} {ctx : Bytes} {panel : Panel}

/-- What the outline of a rectangle covers. -/
def outline (c : Component) : List Box :=
  rounded c.x.toInt c.y.toInt c.width.toNat c.height.toNat c.radius.toNat

theorem exists_rectangle_stroke_iff (c : Component) (x y : Int) :
    (∃ s ∈ rectangleStrokes c, s.box.Contains x y) ↔ Covers (outline c) x y := by
  have boxes {bs : List Box} {color : Color} :
      (∃ s ∈ Stroke.boxes bs color, s.box.Contains x y) ↔ Covers bs x y := by
    simp [Stroke.boxes, Covers]
  unfold rectangleStrokes
  dsimp only
  simp only [List.mem_append, or_and_right, exists_or]
  rw [boxes]
  constructor
  · rintro (h | h)
    · exact h
    · split at h
      · simp at h
      · exact covers_of_inner (by omega) (by omega) (boxes.1 h)
  · exact .inl

theorem paints_rectangle_iff (hk : c.kind = .rectangle) {x y : Nat} (hx : x < panel.width)
    (hy : y < panel.height) : (component c ctx).Paints panel x y ↔ Covers (outline c) x y := by
  rw [paints_iff hx hy, strokes, hk]
  exact exists_rectangle_stroke_iff c x y

theorem ofStatus_rectangle (hk : c.kind = .rectangle) (ctx : Bytes) :
    ofStatus (c.encode ++ ctx) = .ok (component c ctx) := by
  unfold ofStatus
  rw [Component.decode_encode]
  simp only [Except.mapError, bind, Except.bind]
  rw [if_neg (by simp [hk])]
  rfl

theorem coversScreen_iff : coversScreen c panel = true ↔
    c.x.toInt ≤ 0 ∧ c.y.toInt ≤ 0 ∧ panel.width ≤ c.width.toNat ∧ panel.height ≤ c.height.toNat := by
  simp only [coversScreen, Bool.and_eq_true, decide_eq_true_eq, and_assoc, Int16.le_iff_toInt_le]
  rfl

/-- A rectangle clears if its corner is not inside the screen and it is at least as large. -/
theorem clears_rectangle_iff (hk : c.kind = .rectangle) : (component c ctx).Clears panel ↔
    c.x.toInt ≤ 0 ∧ c.y.toInt ≤ 0 ∧ panel.width ≤ c.width.toNat ∧ panel.height ≤ c.height.toNat := by
  rw [← coversScreen_iff]
  constructor
  · intro h
    have hb := h ⟨Framebuffer.blank panel, ScreenText.empty 0⟩ rfl
    rw [draw, hk] at hb
    dsimp only at hb
    split at hb
    · assumption
    · cases congrArg ScreenText.cleared hb
  · rintro h canvas rfl
    rw [draw, hk]
    dsimp only
    rw [if_pos h]
    rfl

/-- **What a rectangle clears and what it paints**, on the screen of any model and over any picture:

1. It clears the text if its corner is not inside the screen and it is at least as large as the screen.
2. It does so if its box covers the screen, whether it is filled or not and whatever its radius, and in
   particular if it paints the whole screen.
3. It paints the whole screen if it paints the four corners of it.
4. Without a radius it paints the whole screen if it clears the text and reaches to the right and to
   the bottom edge. -/
theorem rectangle_clears_and_paints (m : Model) (c : Component) (ctx : Bytes) (hk : c.kind = .rectangle) :
    let d := component c ctx
    let panel := m.panel
    let box : Box := ⟨c.x.toInt, c.y.toInt, c.width.toNat, c.height.toNat⟩
    (d.Clears panel ↔
      c.x.toInt ≤ 0 ∧ c.y.toInt ≤ 0 ∧ panel.width ≤ c.width.toNat ∧ panel.height ≤ c.height.toNat) ∧
    ((∀ x y : Nat, x < panel.width → y < panel.height → box.Contains x y) → d.Clears panel) ∧
    (d.PaintsAll panel → d.Clears panel) ∧
    (d.PaintsAll panel ↔ d.Paints panel 0 0 ∧ d.Paints panel (panel.width - 1) 0 ∧
      d.Paints panel 0 (panel.height - 1) ∧ d.Paints panel (panel.width - 1) (panel.height - 1)) ∧
    (c.radius = 0 → (d.PaintsAll panel ↔ d.Clears panel ∧
      panel.width ≤ c.x.toInt + c.width.toNat ∧ panel.height ≤ c.y.toInt + c.height.toNat)) := by
  intro d panel box
  have hw : 0 < panel.width := by cases m <;> decide
  have hh : 0 < panel.height := by cases m <;> decide
  have paints {x y : Nat} (hx : x < panel.width) (hy : y < panel.height) :
      d.Paints panel x y ↔ Covers (outline c) x y := paints_rectangle_iff hk hx hy
  have clears : d.Clears panel ↔ _ := clears_rectangle_iff hk
  have inside {x y : Nat} (h : Covers (outline c) x y) : box.Contains x y := h.inside
  -- the first and the last point of the screen tell how far the box reaches
  have reaches (h : ∀ x y : Nat, x < panel.width → y < panel.height → box.Contains x y) :
      (c.x.toInt ≤ 0 ∧ c.y.toInt ≤ 0) ∧ panel.width ≤ c.x.toInt + c.width.toNat ∧
        panel.height ≤ c.y.toInt + c.height.toNat := by
    have first := Box.contains_mk.1 (h 0 0 hw hh)
    have last := Box.contains_mk.1 (h (panel.width - 1) (panel.height - 1) (by omega) (by omega))
    omega
  have clears_of_inside (h : ∀ x y : Nat, x < panel.width → y < panel.height → box.Contains x y) :
      d.Clears panel := by
    have := reaches h
    exact clears.2 (by omega)
  have inside_of_paints (h : d.PaintsAll panel) :
      ∀ x y : Nat, x < panel.width → y < panel.height → box.Contains x y :=
    fun x y hx hy => inside ((paints hx hy).1 (h x y hx hy))
  refine ⟨clears, clears_of_inside, fun h => clears_of_inside (inside_of_paints h), ?_, fun hr => ?_⟩
  · have hw1 : panel.width - 1 < panel.width := by omega
    have hh1 : panel.height - 1 < panel.height := by omega
    constructor
    · intro h
      exact ⟨h _ _ hw hh, h _ _ hw1 hh, h _ _ hw hh1, h _ _ hw1 hh1⟩
    · rintro ⟨h₁₁, h₂₁, h₁₂, h₂₂⟩ x y hx hy
      rw [paints hw hh] at h₁₁
      rw [paints hw1 hh] at h₂₁
      rw [paints hw hh1] at h₁₂
      rw [paints hw1 hh1] at h₂₂
      rw [paints hx hy]
      exact h₁₁.of_corners h₂₁ h₁₂ h₂₂ (by omega) (by omega)
  · constructor
    · intro h
      exact ⟨clears_of_inside (inside_of_paints h), (reaches (inside_of_paints h)).2⟩
    · rintro ⟨hc, hx', hy'⟩ x y hx hy
      have hs := clears.1 hc
      have hq : cornerRadius c.width.toNat c.height.toNat c.radius.toNat = 0 := by
        have h0 : c.radius.toNat = 0 := by rw [hr]; rfl
        unfold cornerRadius
        omega
      rw [paints hx hy, outline, covers_rounded_of_square (by omega) (by omega) hq, Box.contains_mk]
      omega

/-- A bordered rectangle that begins left of and above the screen and ends beyond it. -/
theorem rectangle_beyond_screen_clears_and_paints :
    let c : Component := ⟨.rectangle, 0, -10, -5, 200, 100, 3, 0, 0, 0xFFFFFF, 0, 0, 0⟩
    let d := component c []
    c.kind = .rectangle ∧ ofStatus (c.encode ++ []) = .ok d ∧ d.Clears Model.nanoSP.panel ∧
      d.PaintsAll Model.nanoSP.panel := by
  intro c d
  obtain ⟨clears, -, -, -, paints⟩ := rectangle_clears_and_paints .nanoSP c [] rfl
  have hc : d.Clears Model.nanoSP.panel := clears.2 (by decide)
  exact ⟨rfl, ofStatus_rectangle rfl [], hc, (paints rfl).2 ⟨hc, by decide, by decide⟩⟩

/-- **A rectangle may clear without painting the whole screen.** One as large as the screen that begins ten
columns left of it leaves ten columns at the right edge, and one with round corners leaves the corners of
the screen. -/
theorem rectangle_clears_without_painting :
    let panel := Model.nanoSP.panel
    let shifted : Component := ⟨.rectangle, 0, -10, 0, 128, 64, 0, 0, 1, 0xFFFFFF, 0, 0, 0⟩
    let round : Component := ⟨.rectangle, 0, 0, 0, 128, 64, 0, 8, 1, 0xFFFFFF, 0, 0, 0⟩
    (ofStatus (shifted.encode ++ []) = .ok (component shifted []) ∧ (component shifted []).Clears panel ∧
      ¬ (component shifted []).Paints panel 127 0) ∧
    ofStatus (round.encode ++ []) = .ok (component round []) ∧ (component round []).Clears panel ∧
      ¬ (component round []).Paints panel 0 0 := by
  intro panel shifted round
  refine ⟨⟨ofStatus_rectangle rfl [], (clears_rectangle_iff rfl).2 (by decide), fun h => ?_⟩,
    ofStatus_rectangle rfl [], (clears_rectangle_iff rfl).2 (by decide), fun h => ?_⟩
  · have hc : Covers (rounded (-10) 0 128 64 0) 127 0 :=
      (paints_rectangle_iff (c := shifted) rfl (by decide) (by decide)).1 h
    have := Box.contains_mk.1 hc.inside
    omega
  · have hc : Covers (rounded 0 0 128 64 8) 0 0 :=
      (paints_rectangle_iff (c := round) rfl (by decide) (by decide)).1 h
    rw [covers_rounded_iff (q := 8) (by decide) (by decide) (by decide) (by decide)] at hc
    obtain ⟨a, b, ha, hb, hin⟩ := hc
    obtain rfl : a = 8 := by
      unfold Beyond at ha
      omega
    obtain rfl : b = 8 := by
      unfold Beyond at hb
      omega
    rw [inDisc_of_row_le (le_refl 8)] at hin
    omega

end Drawing
end Bagl
end Seph
