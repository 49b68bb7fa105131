import Seph.Proofs.Display.Framebuffer

/-!
# Committing what was drawn

1. `pendingAt_commit`, `screenAt_commit`: a region that is committed shows what was drawn in it, and
   everything else stays as it is.
2. `shown_commit`: the pixels of a commit are what was drawn in the region, in order.
3. `overlay_commit`: put over the picture before a commit, they give the picture after it.
4. `getElem?_image`: the picture as a list of rows.
-/

namespace Seph.Framebuffer

def commitPoints (s : Framebuffer × Array Pixel) (ps : List (Nat × Nat)) :
    Framebuffer × Array Pixel :=
  ps.foldl (fun s p => commitPoint p.1 p.2 s) s

/-- Draws pixels over a picture, one after the other. -/
def overlay (picture : Nat → Nat → Color) (ps : List Pixel) : Nat → Nat → Color :=
  ps.foldl (fun picture p x y => if x = p.x ∧ y = p.y then p.color else picture x y) picture

section Committing

variable (fb : Framebuffer) (shown : Array Pixel) (x y u v : Nat)

/-- What is drawn at a point, if anything, as a pixel. -/
def drawn? (p : Nat × Nat) : Option Pixel := (fb.pendingAt p.1 p.2).map (⟨p.1, p.2, ·⟩)

theorem commitPoint_none {fb : Framebuffer} {x y : Nat} (h : fb.pendingAt x y = none)
    (shown : Array Pixel) : commitPoint x y (fb, shown) = (fb, shown) := by
  unfold commitPoint
  dsimp only
  split
  · rename_i ho
    rw [pendingAt_of_on ho] at h
    rw [h]
  · rfl

theorem commitPoint_some {fb : Framebuffer} {x y : Nat} {c : Color} (h : fb.pendingAt x y = some c)
    (ho : fb.OnScreen x y) (shown : Array Pixel) :
    commitPoint x y (fb, shown) = ({ fb with
      pending := fb.pending.set (y * fb.panel.width + x) none (index_lt ho.1 ho.2)
      screen := fb.screen.set (y * fb.panel.width + x) c (index_lt ho.1 ho.2) },
      shown.push ⟨x, y, c⟩) := by
  rw [pendingAt_of_on ho] at h
  unfold commitPoint
  dsimp only
  rw [dif_pos ho]
  split
  · rename_i hn
    rw [hn] at h
    cases h
  · rename_i d hd
    rw [hd] at h
    cases h
    rfl

theorem screenAt_setScreen (ho : fb.OnScreen x y) (c : Color)
    (pending : Vector (Option Color) (fb.panel.width * fb.panel.height)) :
    ({ fb with
        pending
        screen := fb.screen.set (y * fb.panel.width + x) c (index_lt ho.1 ho.2) } :
          Framebuffer).screenAt u v = if u = x ∧ v = y then c else fb.screenAt u v := by
  by_cases hq : fb.OnScreen u v
  · refine (dif_pos hq).trans
      ((Vector.getElem_set (index_lt ho.1 ho.2) (index_lt hq.1 hq.2)).trans ?_)
    exact if_congr (index_inj ho.1 hq.1) rfl (screenAt_of_on hq).symm
  · rw [if_neg, screenAt_of_off hq]
    · exact dif_neg hq
    · rintro ⟨rfl, rfl⟩
      exact hq ho

@[simp] theorem panel_commitPoint (s : Framebuffer × Array Pixel) :
    (commitPoint x y s).1.panel = s.1.panel := by
  obtain ⟨fb, shown⟩ := s
  cases h : fb.pendingAt x y with
  | none => rw [commitPoint_none h]
  | some c => rw [commitPoint_some h (onScreen_of_pendingAt h)]

theorem pendingAt_commitPoint (s : Framebuffer × Array Pixel) :
    (commitPoint x y s).1.pendingAt u v = if u = x ∧ v = y then none else s.1.pendingAt u v := by
  obtain ⟨fb, shown⟩ := s
  cases h : fb.pendingAt x y with
  | none =>
    rw [commitPoint_none h]
    split
    · rename_i he
      rw [he.1, he.2, h]
    · rfl
  | some c =>
    have ho := onScreen_of_pendingAt h
    rw [commitPoint_some h ho]
    have hs := pendingAt_set fb x y u v none
    rw [set_of_on ho] at hs
    refine Eq.trans hs ?_
    by_cases hq : fb.OnScreen u v
    · exact if_congr (and_iff_left hq) rfl rfl
    · rw [pendingAt_of_off hq, ite_self, ite_self]

theorem screenAt_commitPoint (s : Framebuffer × Array Pixel) :
    (commitPoint x y s).1.screenAt u v =
      if u = x ∧ v = y then (s.1.pendingAt u v).getD (s.1.screenAt u v) else s.1.screenAt u v := by
  obtain ⟨fb, shown⟩ := s
  cases h : fb.pendingAt x y with
  | none =>
    rw [commitPoint_none h]
    split
    · rename_i he
      rw [he.1, he.2, h]
      rfl
    · rfl
  | some c =>
    have ho := onScreen_of_pendingAt h
    rw [commitPoint_some h ho]
    refine (screenAt_setScreen fb x y u v ho c _).trans ?_
    split
    · rename_i he
      obtain ⟨rfl, rfl⟩ := he
      rw [h]
      rfl
    · rfl

theorem shown_commitPoint (s : Framebuffer × Array Pixel) :
    (commitPoint x y s).2.toList = s.2.toList ++ (s.1.drawn? (x, y)).toList := by
  obtain ⟨fb, shown⟩ := s
  cases h : fb.pendingAt x y with
  | none =>
    rw [commitPoint_none h, drawn?, h]
    exact (List.append_nil _).symm
  | some c =>
    rw [commitPoint_some h (onScreen_of_pendingAt h), drawn?, h]
    exact Array.toList_push

theorem overlay_append (picture : Nat → Nat → Color) (ps qs : List Pixel) :
    overlay picture (ps ++ qs) = overlay (overlay picture ps) qs := List.foldl_append

/-- What is drawn at a point, put over the picture on the screen, gives the picture that follows. -/
theorem overlay_commitPoint (s : Framebuffer × Array Pixel) :
    overlay s.1.screenAt (s.1.drawn? (x, y)).toList = (commitPoint x y s).1.screenAt := by
  funext u v
  rw [screenAt_commitPoint, drawn?]
  by_cases he : u = x ∧ v = y
  · obtain ⟨rfl, rfl⟩ := he
    rw [if_pos ⟨rfl, rfl⟩]
    cases s.1.pendingAt u v with
    | none => rfl
    | some c => exact if_pos ⟨rfl, rfl⟩
  · rw [if_neg he]
    cases s.1.pendingAt x y with
    | none => rfl
    | some c => exact if_neg he

/-! ### Several points -/

variable (ps : List (Nat × Nat)) (s : Framebuffer × Array Pixel)

@[simp] theorem panel_commitPoints : (commitPoints s ps).1.panel = s.1.panel := by
  induction ps generalizing s with
  | nil => rfl
  | cons p ps ih => exact (ih _).trans (panel_commitPoint _ _ s)

theorem pendingAt_commitPoints :
    (commitPoints s ps).1.pendingAt u v = if (u, v) ∈ ps then none else s.1.pendingAt u v := by
  induction ps generalizing s with
  | nil => rfl
  | cons p ps ih =>
    refine (ih _).trans ?_
    rw [pendingAt_commitPoint]
    grind

theorem screenAt_commitPoints :
    (commitPoints s ps).1.screenAt u v =
      if (u, v) ∈ ps then (s.1.pendingAt u v).getD (s.1.screenAt u v) else s.1.screenAt u v := by
  induction ps generalizing s with
  | nil => rfl
  | cons p ps ih =>
    refine (ih _).trans ?_
    rw [pendingAt_commitPoint, screenAt_commitPoint]
    grind

theorem shown_commitPoints (hp : ps.Nodup) :
    (commitPoints s ps).2.toList = s.2.toList ++ ps.filterMap s.1.drawn? := by
  induction ps generalizing s with
  | nil => exact (List.append_nil _).symm
  | cons p ps ih =>
    obtain ⟨hn, hd⟩ := List.nodup_cons.1 hp
    have hk : ps.filterMap (commitPoint p.1 p.2 s).1.drawn? = ps.filterMap s.1.drawn? := by
      refine List.filterMap_congr fun q hq => ?_
      rw [drawn?, pendingAt_commitPoint, if_neg]
      · rfl
      · rintro ⟨hx, hy⟩
        exact hn (Prod.ext hx hy ▸ hq)
    refine (ih _ hd).trans ?_
    rw [hk, shown_commitPoint, List.append_assoc, List.filterMap_cons]
    cases s.1.drawn? p <;> rfl

/-- The pixels of a commit, put over a picture that it started from, give the picture that follows. -/
theorem overlay_commitPoints {picture : Nat → Nat → Color}
    (h : overlay picture s.2.toList = s.1.screenAt) :
    overlay picture (commitPoints s ps).2.toList = (commitPoints s ps).1.screenAt := by
  induction ps generalizing s with
  | nil => exact h
  | cons p ps ih =>
    refine ih (commitPoint p.1 p.2 s) ?_
    rw [shown_commitPoint, overlay_append, h, overlay_commitPoint]

/-! ### Regions -/

/-- The points of a region of `w` columns and `h` rows, as far as they are on the screen. -/
def region (x y w h : Nat) : List (Nat × Nat) :=
  points x y (min (x + w) fb.panel.width) (min (y + h) fb.panel.height)

variable (w h : Nat)

theorem mem_region : (u, v) ∈ fb.region x y w h ↔
    ((x ≤ u ∧ u < x + w) ∧ y ≤ v ∧ v < y + h) ∧ fb.OnScreen u v := by
  rw [region, mem_points]
  omega

theorem commit_eq : fb.commit x y w h = commitPoints (fb, #[]) (fb.region x y w h) :=
  fold_points x y (min (x + w) fb.panel.width) (min (y + h) fb.panel.height) commitPoint (fb, #[])

@[simp] theorem panel_commit : (fb.commit x y w h).1.panel = fb.panel := by
  rw [commit_eq, panel_commitPoints]

theorem pendingAt_commit : (fb.commit x y w h).1.pendingAt u v =
    if (x ≤ u ∧ u < x + w) ∧ y ≤ v ∧ v < y + h then none else fb.pendingAt u v := by
  rw [commit_eq, pendingAt_commitPoints]
  by_cases ho : fb.OnScreen u v
  · exact if_congr ((mem_region fb x y u v w h).trans (and_iff_left ho)) rfl rfl
  · rw [pendingAt_of_off ho, ite_self, ite_self]

theorem screenAt_commit : (fb.commit x y w h).1.screenAt u v =
    if (x ≤ u ∧ u < x + w) ∧ y ≤ v ∧ v < y + h then (fb.pendingAt u v).getD (fb.screenAt u v)
    else fb.screenAt u v := by
  rw [commit_eq, screenAt_commitPoints]
  by_cases ho : fb.OnScreen u v
  · exact if_congr ((mem_region fb x y u v w h).trans (and_iff_left ho)) rfl rfl
  · rw [pendingAt_of_off ho, Option.getD_none, ite_self, ite_self]

theorem pixel?_commit : (fb.commit x y w h).1.pixel? u v = fb.pixel? u v := by
  rw [pixel?, pixel?, panel_commit, pendingAt_commit, screenAt_commit]
  refine ite_congr rfl (fun _ => ?_) fun _ => rfl
  split <;> rfl

/-- **The pixels of a commit are what is drawn in its region**, in order. -/
theorem shown_commit : (fb.commit x y w h).2.toList = (fb.region x y w h).filterMap fb.drawn? := by
  rw [commit_eq, shown_commitPoints]
  · exact List.nil_append _
  · exact nodup_points _ _ _ _

/-- **Put over the picture before a commit, its pixels give the picture after it.** -/
theorem overlay_commit :
    overlay fb.screenAt (fb.commit x y w h).2.toList = (fb.commit x y w h).1.screenAt := by
  rw [commit_eq]
  exact overlay_commitPoints _ (fb, #[]) rfl

theorem onScreen_of_mem_shown {p : Pixel} (hp : p ∈ (fb.commit x y w h).2.toList) :
    fb.OnScreen p.x p.y := by
  rw [shown_commit] at hp
  obtain ⟨q, hq, hd⟩ := List.mem_filterMap.1 hp
  obtain ⟨c, -, rfl⟩ := Option.map_eq_some_iff.1 hd
  exact ((mem_region fb x y q.1 q.2 w h).1 hq).2

/-- The pixels of a commit go from top to bottom, and in a row from left to right. -/
theorem pairwise_shown : (fb.commit x y w h).2.toList.Pairwise
    fun p q => Before (p.x, p.y) (q.x, q.y) := by
  rw [shown_commit]
  refine (pairwise_points _ _ _ _).filterMap _ fun p q hpq a ha b hb => ?_
  obtain ⟨c, -, rfl⟩ := Option.map_eq_some_iff.1 ha
  obtain ⟨d, -, rfl⟩ := Option.map_eq_some_iff.1 hb
  exact hpq

end Committing

/-! ## The whole picture -/

@[simp] theorem length_image (fb : Framebuffer) :
    fb.image.length = fb.panel.width * fb.panel.height := Vector.length_toList

theorem getElem?_image {fb : Framebuffer} {x y : Nat} (h : fb.OnScreen x y) :
    fb.image[y * fb.panel.width + x]? = some (fb.screenAt x y) := by
  rw [screenAt_of_on h, image, Vector.getElem?_toList]
  exact Vector.getElem?_eq_getElem _

theorem onScreen_of_lt {fb : Framebuffer} {i : Nat} (h : i < fb.panel.width * fb.panel.height) :
    fb.OnScreen (i % fb.panel.width) (i / fb.panel.width) :=
  ⟨Nat.mod_lt i (Nat.pos_of_lt_mul_right h), Nat.div_lt_of_lt_mul h⟩

theorem image_congr {fb fb' : Framebuffer} (hp : fb'.panel = fb.panel)
    (hs : ∀ x y, fb'.screenAt x y = fb.screenAt x y) : fb'.image = fb.image := by
  refine List.ext_getElem? fun i => ?_
  by_cases hi : i < fb.panel.width * fb.panel.height
  · have ho := onScreen_of_lt hi
    have ho' : fb'.OnScreen (i % fb.panel.width) (i / fb.panel.width) := by rwa [OnScreen, hp]
    have h := getElem?_image ho
    have h' := getElem?_image ho'
    rw [hs, hp] at h'
    rw [Nat.div_add_mod'] at h h'
    rw [h, h']
  · rw [List.getElem?_eq_none (by rw [length_image, hp]; omega),
      List.getElem?_eq_none (by rw [length_image]; omega)]

theorem isDirty_eq_false_iff (fb : Framebuffer) :
    fb.isDirty = false ↔ ∀ x y, fb.pendingAt x y = none := by
  rw [isDirty, Vector.any_eq_false]
  constructor
  · intro h x y
    by_cases ho : fb.OnScreen x y
    · rw [pendingAt_of_on ho]
      exact Option.not_isSome_iff_eq_none.1 (h _ _)
    · exact pendingAt_of_off ho
  · intro h i hi
    have hn := h (i % fb.panel.width) (i / fb.panel.width)
    rw [pendingAt_of_on (onScreen_of_lt hi)] at hn
    simp only [Nat.div_add_mod'] at hn
    rw [hn]
    exact Bool.false_ne_true

end Seph.Framebuffer
