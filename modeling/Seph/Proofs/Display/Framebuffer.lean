import Mathlib.Data.List.Basic
import Seph.Bagl.Shape
import Seph.Proofs.Lists

/-!
# Drawing on a framebuffer

A framebuffer is seen through the colour drawn at each point (`pendingAt`) and the colour shown there
(`screenAt`). What drawing does to the two is said here once for all points.

1. `points`: the points of a range of rows and columns, in the order in which loops go through them.
2. `pendingAt_fillRect`, `drawPoint_eq_fillRect`: a rectangle leaves its colour at the points of the
   screen that it covers, and a point is a rectangle.
3. `pendingAt_paint`, `pixel?_paint`: strokes leave at each point the colour of the last that covers it,
   and `screenAt_paint`: they show nothing.
-/

namespace Seph

/-! ## Points -/

/-- The points of the columns `x₀, …, x₁ - 1` in the rows `y₀, …, y₁ - 1`, row by row. -/
def points (x₀ y₀ x₁ y₁ : Nat) : List (Nat × Nat) :=
  (List.range (y₁ - y₀)).flatMap fun j => (List.range (x₁ - x₀)).map fun i => (x₀ + i, y₀ + j)

theorem fold_points {α : Type} (x₀ y₀ x₁ y₁ : Nat) (f : Nat → Nat → α → α) (a : α) :
    Nat.fold (y₁ - y₀) (fun j _ a => Nat.fold (x₁ - x₀) (fun i _ a => f (x₀ + i) (y₀ + j) a) a) a =
      (points x₀ y₀ x₁ y₁).foldl (fun a p => f p.1 p.2 a) a := by
  rw [fold_eq_foldl (f := fun j a => Nat.fold (x₁ - x₀) (fun i _ a => f (x₀ + i) (y₀ + j) a) a),
    points, List.foldl_flatMap]
  congr 1
  funext a j
  rw [fold_eq_foldl (f := fun i a => f (x₀ + i) (y₀ + j) a), List.foldl_map]

theorem mem_points {x₀ y₀ x₁ y₁ x y : Nat} :
    (x, y) ∈ points x₀ y₀ x₁ y₁ ↔ (x₀ ≤ x ∧ x < x₁) ∧ y₀ ≤ y ∧ y < y₁ := by
  simp only [points, List.mem_flatMap, List.mem_map, List.mem_range, Prod.mk.injEq]
  constructor
  · rintro ⟨j, hj, i, hi, rfl, rfl⟩
    omega
  · rintro ⟨⟨hx, hx'⟩, hy, hy'⟩
    exact ⟨y - y₀, by omega, x - x₀, by omega, by omega, by omega⟩

/-- The order of points: from top to bottom, and in a row from left to right. -/
def Before (p q : Nat × Nat) : Prop := p.2 < q.2 ∨ p.2 = q.2 ∧ p.1 < q.1

theorem pairwise_points (x₀ y₀ x₁ y₁ : Nat) : (points x₀ y₀ x₁ y₁).Pairwise Before := by
  rw [points, List.pairwise_flatMap]
  constructor
  · intro j _
    rw [List.pairwise_map]
    exact List.pairwise_lt_range.imp fun h => .inr ⟨rfl, Nat.add_lt_add_left h x₀⟩
  · refine List.pairwise_lt_range.imp fun h p hp q hq => ?_
    obtain ⟨i, -, rfl⟩ := List.mem_map.1 hp
    obtain ⟨k, -, rfl⟩ := List.mem_map.1 hq
    exact .inl (Nat.add_lt_add_left h y₀)

theorem points_one (x y : Nat) : points x y (x + 1) (y + 1) = [(x, y)] := by
  simp [points]

theorem points_eq_nil {x₀ y₀ x₁ y₁ : Nat} (h : x₁ ≤ x₀ ∨ y₁ ≤ y₀) : points x₀ y₀ x₁ y₁ = [] := by
  rw [List.eq_nil_iff_forall_not_mem]
  intro p hp
  have := mem_points.1 hp
  omega

theorem nodup_points (x₀ y₀ x₁ y₁ : Nat) : (points x₀ y₀ x₁ y₁).Nodup :=
  (pairwise_points x₀ y₀ x₁ y₁).imp fun h he => by
    subst he
    unfold Before at h
    omega

instance (b : Bagl.Box) (x y : Int) : Decidable (b.Contains x y) :=
  inferInstanceAs (Decidable (_ ∧ _))

namespace Framebuffer

/-! ## Views -/

theorem index_div_mod {w x : Nat} (y : Nat) (hx : x < w) : (y * w + x) / w = y ∧ (y * w + x) % w = x := by
  have hw : 0 < w := by omega
  rw [Nat.mul_comm, Nat.mul_add_div hw, Nat.div_eq_of_lt hx, Nat.mul_add_mod, Nat.mod_eq_of_lt hx]
  exact ⟨Nat.add_zero y, rfl⟩

theorem index_inj {w x y u v : Nat} (hx : x < w) (hu : u < w) :
    y * w + x = v * w + u ↔ u = x ∧ v = y := by
  constructor
  · intro h
    obtain ⟨hd, hm⟩ := index_div_mod y hx
    obtain ⟨hd', hm'⟩ := index_div_mod v hu
    rw [h] at hd hm
    exact ⟨hm'.symm.trans hm, hd'.symm.trans hd⟩
  · rintro ⟨rfl, rfl⟩
    rfl

/-- The point is on the screen. -/
abbrev OnScreen (fb : Framebuffer) (x y : Nat) : Prop := x < fb.panel.width ∧ y < fb.panel.height

theorem pendingAt_of_off {fb : Framebuffer} {x y : Nat} (h : ¬ fb.OnScreen x y) :
    fb.pendingAt x y = none := dif_neg h

theorem onScreen_of_pendingAt {fb : Framebuffer} {x y : Nat} {c : Color}
    (h : fb.pendingAt x y = some c) : fb.OnScreen x y := by
  by_cases ho : fb.OnScreen x y
  · exact ho
  · rw [pendingAt_of_off ho] at h
    cases h

theorem pendingAt_of_on {fb : Framebuffer} {x y : Nat} (h : fb.OnScreen x y) :
    fb.pendingAt x y = getElem fb.pending (y * fb.panel.width + x) (index_lt h.1 h.2) := dif_pos h

theorem screenAt_of_off {fb : Framebuffer} {x y : Nat} (h : ¬ fb.OnScreen x y) :
    fb.screenAt x y = 0 := dif_neg h

theorem screenAt_of_on {fb : Framebuffer} {x y : Nat} (h : fb.OnScreen x y) :
    fb.screenAt x y = getElem fb.screen (y * fb.panel.width + x) (index_lt h.1 h.2) := dif_pos h

theorem pendingAt_blank (panel : Panel) (x y : Nat) : (blank panel).pendingAt x y = none := by
  by_cases ho : (blank panel).OnScreen x y
  · exact (pendingAt_of_on ho).trans (Vector.getElem_replicate _)
  · exact pendingAt_of_off ho

theorem screenAt_blank (panel : Panel) (x y : Nat) : (blank panel).screenAt x y = 0 := by
  by_cases ho : (blank panel).OnScreen x y
  · exact (screenAt_of_on ho).trans (Vector.getElem_replicate _)
  · exact screenAt_of_off ho

theorem pixel?_blank {panel : Panel} {x y : Nat} (h : x < panel.width ∧ y < panel.height) :
    (blank panel).pixel? x y = some 0 := by
  refine (if_pos h).trans ?_
  rw [pendingAt_blank, screenAt_blank]
  rfl

/-! ## Drawing -/

section Drawing

variable (fb : Framebuffer) (x y u v : Nat)

theorem set_of_on {fb : Framebuffer} {x y : Nat} (h : fb.OnScreen x y) (c : Option Color) :
    fb.set x y c = { fb with
      pending := fb.pending.set (y * fb.panel.width + x) c (index_lt h.1 h.2) } := dif_pos h

theorem set_of_off {fb : Framebuffer} {x y : Nat} (h : ¬ fb.OnScreen x y) (c : Option Color) :
    fb.set x y c = fb := dif_neg h

@[simp] theorem panel_set (c : Option Color) : (fb.set x y c).panel = fb.panel := by
  unfold set
  split <;> rfl

@[simp] theorem screenAt_set (c : Option Color) : (fb.set x y c).screenAt u v = fb.screenAt u v := by
  unfold set
  split <;> rfl

theorem pendingAt_set (c : Option Color) :
    (fb.set x y c).pendingAt u v =
      if (u = x ∧ v = y) ∧ fb.OnScreen u v then c else fb.pendingAt u v := by
  by_cases hp : fb.OnScreen x y
  · rw [set_of_on hp]
    by_cases hq : fb.OnScreen u v
    · refine (dif_pos hq).trans
        ((Vector.getElem_set (index_lt hp.1 hp.2) (index_lt hq.1 hq.2)).trans ?_)
      exact if_congr ((index_inj hp.1 hq.1).trans (and_iff_left hq).symm) rfl
        (pendingAt_of_on hq).symm
    · rw [if_neg fun h => hq h.2, pendingAt_of_off hq]
      exact dif_neg hq
  · rw [set_of_off hp, if_neg]
    rintro ⟨⟨rfl, rfl⟩, h⟩
    exact hp h

@[simp] theorem panel_foldl_set (ps : List (Nat × Nat)) (c : Option Color) :
    (ps.foldl (fun fb p => fb.set p.1 p.2 c) fb).panel = fb.panel := by
  induction ps generalizing fb with
  | nil => rfl
  | cons p ps ih => rw [List.foldl_cons, ih, panel_set]

theorem screenAt_foldl_set (ps : List (Nat × Nat)) (c : Option Color) :
    (ps.foldl (fun fb p => fb.set p.1 p.2 c) fb).screenAt u v = fb.screenAt u v := by
  induction ps generalizing fb with
  | nil => rfl
  | cons p ps ih => rw [List.foldl_cons, ih, screenAt_set]

theorem pendingAt_foldl_set (ps : List (Nat × Nat)) (c : Option Color) :
    (ps.foldl (fun fb p => fb.set p.1 p.2 c) fb).pendingAt u v =
      if (u, v) ∈ ps ∧ fb.OnScreen u v then c else fb.pendingAt u v := by
  induction ps generalizing fb with
  | nil => rw [if_neg fun h => List.not_mem_nil h.1]; rfl
  | cons p ps ih =>
    rw [List.foldl_cons, ih, pendingAt_set]
    simp only [OnScreen, panel_set, List.mem_cons, Prod.ext_iff]
    grind

theorem fillRect_eq (b : Bagl.Box) (c : Color) :
    fb.fillRect b.x b.y b.width b.height c =
      (points b.x.toNat b.y.toNat (min (b.x + b.width) fb.panel.width).toNat
        (min (b.y + b.height) fb.panel.height).toNat).foldl
          (fun fb' p => fb'.set p.1 p.2 (some (fb.panel.normalize c))) fb := by
  let draw (x y : Nat) (fb' : Framebuffer) := fb'.set x y (some (fb.panel.normalize c))
  exact fold_points b.x.toNat b.y.toNat (min (b.x + b.width) fb.panel.width).toNat
    (min (b.y + b.height) fb.panel.height).toNat draw fb

@[simp] theorem panel_fillRect (b : Bagl.Box) (c : Color) :
    (fb.fillRect b.x b.y b.width b.height c).panel = fb.panel := by
  rw [fillRect_eq, panel_foldl_set]

theorem screenAt_fillRect (b : Bagl.Box) (c : Color) :
    (fb.fillRect b.x b.y b.width b.height c).screenAt u v = fb.screenAt u v := by
  rw [fillRect_eq, screenAt_foldl_set]

/-- A rectangle leaves its colour at the points of the screen that it covers. -/
theorem pendingAt_fillRect (b : Bagl.Box) (c : Color) :
    (fb.fillRect b.x b.y b.width b.height c).pendingAt u v =
      if b.Contains u v ∧ fb.OnScreen u v then some (fb.panel.normalize c)
      else fb.pendingAt u v := by
  rw [fillRect_eq, pendingAt_foldl_set]
  refine if_congr (and_congr_left fun ho => ?_) rfl rfl
  unfold OnScreen at ho
  rw [mem_points, Bagl.Box.Contains]
  omega

theorem drawPoint_of_neg {x y : Int} (h : x < 0 ∨ y < 0) (c : Color) : fb.drawPoint x y c = fb := by
  match x, y with
  | (x : Nat), (y : Nat) => omega
  | .negSucc x, y | (x : Nat), .negSucc y => rfl

theorem drawPoint_eq_fillRect (x y : Int) (c : Color) :
    fb.drawPoint x y c = fb.fillRect x y 1 1 c := by
  rw [fillRect_eq fb ⟨x, y, 1, 1⟩]
  dsimp only
  by_cases hp : 0 ≤ x ∧ 0 ≤ y
  · obtain ⟨x, rfl⟩ := Int.eq_ofNat_of_zero_le hp.1
    obtain ⟨y, rfl⟩ := Int.eq_ofNat_of_zero_le hp.2
    by_cases ho : fb.OnScreen x y
    · have hx : (min ((x : Int) + 1) fb.panel.width).toNat = x + 1 := by
        have := ho.1
        omega
      have hy : (min ((y : Int) + 1) fb.panel.height).toNat = y + 1 := by
        have := ho.2
        omega
      rw [hx, hy, Int.toNat_natCast, Int.toNat_natCast, points_one]
      rfl
    · rw [points_eq_nil (by unfold OnScreen at ho; omega)]
      exact set_of_off ho _
  · rw [drawPoint_of_neg fb (by omega), points_eq_nil (by omega)]
    rfl

end Drawing

/-! ## Strokes -/

/-- A rectangle and the colour to fill it with. -/
structure Stroke where
  box : Bagl.Box
  color : Color

/-- Draws strokes, one after the other. -/
def paint (fb : Framebuffer) (ss : List Stroke) : Framebuffer :=
  ss.foldl (fun fb s => fb.fillRect s.box.x s.box.y s.box.width s.box.height s.color) fb

/-- The colour that strokes leave at a point: that of the last one that covers it. -/
def lastColor? (ss : List Stroke) (x y : Nat) : Option Color :=
  (ss.reverse.find? fun s => s.box.Contains x y).map Stroke.color

section Strokes

variable (fb : Framebuffer) (ss ts : List Stroke) (x y : Nat)

theorem paint_append : fb.paint (ss ++ ts) = (fb.paint ss).paint ts := List.foldl_append

theorem lastColor?_singleton (s : Stroke) :
    lastColor? [s] x y = if s.box.Contains x y then some s.color else none := by
  by_cases h : s.box.Contains x y <;> simp [lastColor?, h]

theorem lastColor?_append : lastColor? (ss ++ ts) x y = (lastColor? ts x y).or (lastColor? ss x y) := by
  rw [lastColor?, List.reverse_append, List.find?_append, Option.map_or]
  rfl

@[simp] theorem panel_paint : (fb.paint ss).panel = fb.panel := by
  induction ss generalizing fb with
  | nil => rfl
  | cons s ss ih => exact (ih _).trans (panel_fillRect fb s.box s.color)

@[simp] theorem screenAt_paint : (fb.paint ss).screenAt x y = fb.screenAt x y := by
  induction ss generalizing fb with
  | nil => rfl
  | cons s ss ih => exact (ih _).trans (screenAt_fillRect fb x y s.box s.color)

/-- **Strokes leave at each point of the screen the colour of the last one that covers it.** -/
theorem pendingAt_paint (h : fb.OnScreen x y) :
    (fb.paint ss).pendingAt x y =
      ((lastColor? ss x y).map fb.panel.normalize).or (fb.pendingAt x y) := by
  induction ss generalizing fb with
  | nil => rfl
  | cons s ss ih =>
    have hs : (fb.fillRect s.box.x s.box.y s.box.width s.box.height s.color).OnScreen x y := by
      unfold OnScreen
      rwa [panel_fillRect]
    rw [← List.singleton_append, lastColor?_append, lastColor?_singleton]
    refine (ih _ hs).trans ?_
    rw [panel_fillRect, pendingAt_fillRect, Option.map_or, Option.or_assoc]
    congr 1
    by_cases hc : s.box.Contains x y
    · rw [if_pos ⟨hc, h⟩, if_pos hc]
      rfl
    · rw [if_neg fun hb => hc hb.1, if_neg hc]
      rfl

/-- Strokes give a point of the screen the colour of the last one that covers it, and leave it as it is
if none does. -/
theorem pixel?_paint (h : fb.OnScreen x y) :
    (fb.paint ss).pixel? x y = ((lastColor? ss x y).map fb.panel.normalize).or (fb.pixel? x y) := by
  unfold pixel?
  rw [panel_paint, if_pos h, if_pos h, pendingAt_paint fb ss x y h, screenAt_paint]
  cases (lastColor? ss x y).map fb.panel.normalize with
  | none => rfl
  | some c => rfl

end Strokes

end Framebuffer
end Seph
