import Seph.Proofs.Display.Commit
import Seph.Proofs.Display.Drawing

/-!
# Runs of a framebuffer

Points, rectangles and rounded rectangles are drawn, and regions or the whole screen are committed, in any
order. What a run leaves is told from its operations.

1. `apply_rule`: an operation draws strokes, or commits a region and draws nothing.
2. `pixel?_after`: a point of the screen has the colour last drawn there, whatever was committed since.
3. `Proper.after`, `Proper.of_mem_shown`: a framebuffer that has only colours of its panel keeps to them,
   and commits no others.
4. `pixels_of_run`: all together, for a new framebuffer of a device.
-/

namespace Seph

/-! ## Colours -/

/-- The panel can show the colour. -/
def Panel.Shows (p : Panel) (c : Color) : Prop :=
  if p.monochrome then c = 0 ∨ c = white else c ≤ 0xFFFFFF

theorem Panel.shows_zero (p : Panel) : p.Shows 0 := by
  unfold Shows
  split
  · exact .inl rfl
  · decide

theorem Panel.shows_normalize (p : Panel) (c : Color) : p.Shows (p.normalize c) := by
  have hle : c &&& 0xFFFFFF ≤ 0xFFFFFF := UInt32.and_le_right
  unfold Shows normalize
  by_cases hm : p.monochrome
  · by_cases hz : c &&& 0xFFFFFF = 0
    · simp [hm, hz]
    · simp [hm, hz]
  · simpa [hm] using hle

namespace Framebuffer

/-! ## Operations -/

/-- What can be done with a framebuffer. -/
inductive Op
  | point (x y : Int) (c : Color)
  | fill (x y w h : Int) (c : Color)
  | round (x y w h r : Int) (c : Color)
  | commit (x y w h : Nat)
  | commitAll

/-- The framebuffer after an operation, and the pixels that were committed. -/
def apply (fb : Framebuffer) : Op → Framebuffer × Array Pixel
  | .point x y c => (fb.drawPoint x y c, #[])
  | .fill x y w h c => (fb.fillRect x y w h c, #[])
  | .round x y w h r c => (Bagl.fillRounded fb x y w h r c, #[])
  | .commit x y w h => fb.commit x y w h
  | .commitAll => fb.commitAll

/-- The colour that an operation draws at a point. A rounded rectangle draws the points of its boxes. -/
def Op.colorAt? (op : Op) (x y : Nat) : Option Color :=
  match op with
  | point u v c => if (x : Int) = u ∧ (y : Int) = v then some c else none
  | fill u v w h c => if (u ≤ x ∧ x < u + w) ∧ v ≤ y ∧ y < v + h then some c else none
  | round u v w h r c => if ∃ b ∈ Bagl.rounded u v w h r, b.Contains x y then some c else none
  | commit _ _ _ _ | commitAll => none

def after (fb : Framebuffer) (ops : List Op) : Framebuffer :=
  ops.foldl (fun fb op => (fb.apply op).1) fb

/-- The pixels that operations commit, in order. -/
def shown (fb : Framebuffer) : List Op → List Pixel
  | [] => []
  | op :: ops => (fb.apply op).2.toList ++ shown (fb.apply op).1 ops

/-- The colour that the last of the operations draws which draw at a point. -/
def lastDrawn? (ops : List Op) (x y : Nat) : Option Color :=
  ops.reverse.findSome? fun op => op.colorAt? x y

/-- How an operation comes about. -/
inductive Rule (fb : Framebuffer) (op : Op) : Framebuffer × Array Pixel → Prop
  | draws (ss : List Stroke) (h : ∀ x y, lastColor? ss x y = op.colorAt? x y) :
    Rule fb op (fb.paint ss, #[])
  | commits (x y w h : Nat) (hn : ∀ u v, op.colorAt? u v = none) : Rule fb op (fb.commit x y w h)

theorem lastColor?_boxes (bs : List Bagl.Box) (c : Color) (x y : Nat) :
    lastColor? (Stroke.boxes bs c) x y = if ∃ b ∈ bs, b.Contains x y then some c else none := by
  by_cases h : ∃ b ∈ bs, b.Contains x y
  · obtain ⟨b, hb, hc⟩ := h
    rw [if_pos ⟨b, hb, hc⟩]
    refine lastColor?_of_agree (fun s hs _ => ?_) ⟨⟨b, c⟩, List.mem_map_of_mem hb, hc⟩
    obtain ⟨_, -, rfl⟩ := List.mem_map.1 hs
    rfl
  · rw [if_neg h]
    refine lastColor?_of_forall_not fun s hs hc => h ?_
    obtain ⟨b, hb, rfl⟩ := List.mem_map.1 hs
    exact ⟨b, hb, hc⟩

section Operation

variable (fb : Framebuffer)

/-- **An operation draws strokes, or it commits a region and draws nothing.** -/
theorem apply_rule (op : Op) : fb.Rule op (fb.apply op) := by
  cases op with
  | point x y c =>
    rw [apply, drawPoint_eq_paint]
    refine .draws _ fun u v => (lastColor?_singleton u v _).trans (if_congr ?_ rfl rfl)
    show (x ≤ u ∧ (u : Int) < x + 1) ∧ y ≤ v ∧ (v : Int) < y + 1 ↔ _
    omega
  | fill x y w h c => exact .draws [⟨⟨x, y, w, h⟩, c⟩] fun u v => lastColor?_singleton u v _
  | round x y w h r c =>
    rw [apply, Bagl.fillRounded, Bagl.fillBoxes_eq_paint]
    exact .draws _ fun u v => lastColor?_boxes _ c u v
  | commit x y w h => exact .commits x y w h fun _ _ => rfl
  | commitAll => exact .commits 0 0 fb.panel.width fb.panel.height fun _ _ => rfl

variable {fb} {op : Op} {s : Framebuffer × Array Pixel}

theorem Rule.panel (hs : fb.Rule op s) : s.1.panel = fb.panel := by
  cases hs with
  | draws ss => exact panel_paint fb ss
  | commits x y w h => exact panel_commit fb x y w h

theorem Rule.pixel? (hs : fb.Rule op s) {x y : Nat} (ho : fb.OnScreen x y) :
    s.1.pixel? x y = ((op.colorAt? x y).map fb.panel.normalize).or (fb.pixel? x y) := by
  cases hs with
  | draws ss h => rw [pixel?_paint fb ss x y ho, h]
  | commits u v w h hn =>
    rw [pixel?_commit, hn]
    rfl

end Operation

/-! ## The colour last drawn -/

theorem lastDrawn?_cons (op : Op) (ops : List Op) (x y : Nat) :
    lastDrawn? (op :: ops) x y = (lastDrawn? ops x y).or (op.colorAt? x y) := by
  unfold lastDrawn?
  rw [List.reverse_cons, List.findSome?_append, List.findSome?_singleton]

theorem panel_after (fb : Framebuffer) (ops : List Op) : (fb.after ops).panel = fb.panel := by
  induction ops generalizing fb with
  | nil => rfl
  | cons op ops ih => exact (ih _).trans (fb.apply_rule op).panel

/-- **A point of the screen has the colour last drawn there**, or the one that it had before. -/
theorem pixel?_after (fb : Framebuffer) (ops : List Op) {x y : Nat} (ho : fb.OnScreen x y) :
    (fb.after ops).pixel? x y =
      ((lastDrawn? ops x y).map fb.panel.normalize).or (fb.pixel? x y) := by
  induction ops generalizing fb with
  | nil => rfl
  | cons op ops ih =>
    -- no operation changes the panel, so the point is still on the screen for the others
    have hp : (fb.apply op).1.panel = fb.panel := (fb.apply_rule op).panel
    have ho' : (fb.apply op).1.OnScreen x y := by rwa [OnScreen, hp]
    calc (fb.after (op :: ops)).pixel? x y
      _ = ((lastDrawn? ops x y).map fb.panel.normalize).or ((fb.apply op).1.pixel? x y) := by
        have := ih (fb.apply op).1 ho'
        rwa [hp] at this
      _ = ((lastDrawn? (op :: ops) x y).map fb.panel.normalize).or (fb.pixel? x y) := by
        rw [(fb.apply_rule op).pixel? ho, lastDrawn?_cons, Option.map_or, Option.or_assoc]

/-! ## Colours of the panel -/

/-- A framebuffer has only colours that its panel shows. -/
structure Proper (fb : Framebuffer) : Prop where
  pending : ∀ x y c, fb.pendingAt x y = some c → fb.panel.Shows c
  screen : ∀ x y, fb.panel.Shows (fb.screenAt x y)

theorem proper_blank (panel : Panel) : (blank panel).Proper where
  pending x y c h := by
    rw [pendingAt_blank] at h
    cases h
  screen x y := by
    rw [screenAt_blank]
    exact panel.shows_zero

section Proper

variable {fb : Framebuffer} (hp : fb.Proper)

include hp

theorem Proper.paint (ss : List Stroke) : (fb.paint ss).Proper where
  pending x y c h := by
    have ho := onScreen_of_pendingAt h
    rw [OnScreen, panel_paint] at ho
    rw [pendingAt_paint fb ss x y ho] at h
    rw [panel_paint]
    cases hl : lastColor? ss x y with
    | none =>
      rw [hl] at h
      exact hp.pending x y c h
    | some d =>
      rw [hl] at h
      cases h
      exact fb.panel.shows_normalize d
  screen x y := by
    rw [panel_paint, screenAt_paint]
    exact hp.screen x y

/-- What is drawn is shown by a commit, and otherwise stays. -/
theorem Proper.commit (x y w h : Nat) : (fb.commit x y w h).1.Proper where
  pending u v c hc := by
    rw [pendingAt_commit] at hc
    split at hc
    · cases hc
    · rw [panel_commit]
      exact hp.pending u v c hc
  screen u v := by
    rw [panel_commit, screenAt_commit]
    split
    · cases hd : fb.pendingAt u v with
      | none => exact hp.screen u v
      | some c => exact hp.pending u v c hd
    · exact hp.screen u v

theorem Proper.rule {op : Op} {s : Framebuffer × Array Pixel} (hs : fb.Rule op s) : s.1.Proper := by
  cases hs with
  | draws ss => exact hp.paint ss
  | commits x y w h => exact hp.commit x y w h

theorem Proper.of_mem {op : Op} {s : Framebuffer × Array Pixel} (hs : fb.Rule op s) {p : Pixel}
    (hm : p ∈ s.2.toList) : fb.OnScreen p.x p.y ∧ fb.panel.Shows p.color := by
  cases hs with
  | draws ss => cases hm
  | commits x y w h =>
    refine ⟨onScreen_of_mem_shown fb x y w h hm, ?_⟩
    rw [shown_commit] at hm
    obtain ⟨q, -, hd⟩ := List.mem_filterMap.1 hm
    obtain ⟨c, hc, rfl⟩ := Option.map_eq_some_iff.1 hd
    exact hp.pending q.1 q.2 c hc

theorem Proper.after (ops : List Op) : (fb.after ops).Proper := by
  induction ops generalizing fb with
  | nil => exact hp
  | cons op ops ih => exact ih (hp.rule (fb.apply_rule op))

theorem Proper.of_mem_shown {ops : List Op} {p : Pixel} (hm : p ∈ fb.shown ops) :
    fb.OnScreen p.x p.y ∧ fb.panel.Shows p.color := by
  induction ops generalizing fb with
  | nil => cases hm
  | cons op ops ih =>
    rcases List.mem_append.1 hm with hm | hm
    · exact hp.of_mem (fb.apply_rule op) hm
    · have := ih (hp.rule (fb.apply_rule op)) hm
      rwa [OnScreen, (fb.apply_rule op).panel] at this

end Proper

/-! ## Runs -/

/-- **What a run leaves on a new framebuffer of a device.** After any points, rectangles and rounded
rectangles, at any places, and any commits:

1. Whatever waits to be shown is on the screen, and it, the screen and all pixels that were committed have
   colours of the panel: black and white if there are no others.
2. To fill a rectangle changes just the points of the screen that lie in it, and leaves the colour that the
   panel shows for that of the rectangle.
3. The colour of a point is the one last drawn there, whatever was committed since, and black if there is
   none. Points outside of the screen have no colour.
4. To commit all leaves nothing waiting. -/
theorem pixels_of_run (m : Model) (ops : List Op) :
    let panel := m.panel
    let fb := (blank panel).after ops
    ((∀ x y c, fb.pendingAt x y = some c →
        (x < panel.width ∧ y < panel.height) ∧ panel.Shows c) ∧
      (∀ x y, x < panel.width → y < panel.height → panel.Shows (fb.screenAt x y)) ∧
      ∀ p ∈ (blank panel).shown ops, (p.x < panel.width ∧ p.y < panel.height) ∧ panel.Shows p.color) ∧
    (∀ (x y w h : Int) (c : Color) (u v : Nat),
      let filled := fb.fillRect x y w h c
      filled.screenAt u v = fb.screenAt u v ∧
      filled.pendingAt u v =
        if ((x ≤ u ∧ u < x + w) ∧ y ≤ v ∧ v < y + h) ∧ u < panel.width ∧ v < panel.height then
          some (panel.normalize c)
        else fb.pendingAt u v) ∧
    (∀ x y, fb.pixel? x y =
      if x < panel.width ∧ y < panel.height then
        some (((lastDrawn? ops x y).map panel.normalize).getD 0)
      else none) ∧
    fb.commitAll.1.isDirty = false ∧ ∀ x y, fb.commitAll.1.pendingAt x y = none := by
  intro panel fb
  have hpanel : fb.panel = panel := panel_after (blank panel) ops
  have hproper : fb.Proper := (proper_blank panel).after ops
  have committed (x y : Nat) : fb.commitAll.1.pendingAt x y = none := by
    rw [commitAll, pendingAt_commit]
    by_cases ho : fb.OnScreen x y
    · exact if_pos (by unfold OnScreen at ho; omega)
    · rw [pendingAt_of_off ho, ite_self]
  refine ⟨⟨fun x y c h => ?_, fun x y _ _ => ?_, fun p hp => ?_⟩, fun x y w h c u v => ⟨?_, ?_⟩,
    fun x y => ?_, (isDirty_eq_false_iff _).2 committed, committed⟩
  · have ho := onScreen_of_pendingAt h
    rw [OnScreen, hpanel] at ho
    exact ⟨ho, hpanel ▸ hproper.pending x y c h⟩
  · exact hpanel ▸ hproper.screen x y
  · exact (proper_blank panel).of_mem_shown hp
  · exact screenAt_fillRect fb u v ⟨x, y, w, h⟩ c
  · have := pendingAt_fillRect fb u v ⟨x, y, w, h⟩ c
    unfold OnScreen at this
    rwa [hpanel] at this
  · by_cases ho : x < panel.width ∧ y < panel.height
    · refine (pixel?_after (blank panel) ops ho).trans ?_
      rw [pixel?_blank ho, if_pos ho]
      cases lastDrawn? ops x y with
      | none => rfl
      | some c => rfl
    · rw [if_neg ho, pixel?, hpanel, if_neg ho]

end Framebuffer
end Seph
