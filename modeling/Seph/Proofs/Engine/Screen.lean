import Seph.Proofs.Engine.Run

/-!
# The screen of a device

A front end that draws the pixels it is shown has the device's screen on its own
(`front_end_has_screen`), and a general status shows what was asked to be refreshed, and nothing outside
of the smallest rectangle around it (`status_shows_what_was_asked`).
-/

namespace Seph.Engine

open Framebuffer (colorAt Ordered)

/-! ## The front end -/

/-- **A front end has the device's screen on its own.** After any run of a new device the colours of its
screen, row by row, are those that a front end has which started black and drew the pixels that it was
shown. Each list of pixels has some, all of them on the screen, from top to bottom and in a row from
left to right. And nothing changes the screen but a general status that succeeds. -/
theorem front_end_has_screen (m : Model) (k : LinkKind) (g : Option Graphics) (os : List Op) :
    let e := new m k g
    ((e.after os).screenshot.length = m.panel.width * m.panel.height ∧
      ∀ x y, x < m.panel.width → y < m.panel.height →
        (e.after os).screenshot[y * m.panel.width + x]? = some (e.frontEnd os x y)) ∧
    (∀ ps ∈ e.screens os, Ordered m.panel ps) ∧
    ∀ o, (e.after (os ++ [o])).screenshot ≠ (e.after os).screenshot →
      ∃ bs outputs, o = .update ⟨.generalStatus, bs⟩ ∧ ((e.after os).step o).result = .ok outputs := by
  intro e
  have h : Depicts m (e.drawn os) (e.screens os) (e.asked os) (e.after os) := depicts_after m k g os
  refine ⟨⟨?_, fun x y hx hy => ?_⟩, h.ordered, fun o ho => ?_⟩
  · rw [screenshot, Framebuffer.length_image, h.panel]
  · have on : (e.after os).canvas.frame.OnScreen x y := by
      rw [Framebuffer.OnScreen, h.panel]
      exact ⟨hx, hy⟩
    have hi := Framebuffer.getElem?_image on
    rw [h.panel] at hi
    rw [screenshot, hi, frontEnd, h.shown]
  · cases hf : (e.after os).finishes o with
    | false =>
      -- strokes show nothing
      have hd := (draws_step hf).frame
      refine absurd (Framebuffer.image_congr ?_ fun x y => ?_) ho
      · rw [after_concat, hd, Framebuffer.panel_paint]
      · rw [after_concat, hd, Framebuffer.screenAt_paint]
    | true => exact exists_of_finishes hf

/-! ## The general status -/

theorem panel_lt (m : Model) : m.panel.width < UInt16.size ∧ m.panel.height < UInt16.size := by
  cases m <;> decide

/-- **A general status shows what was asked to be refreshed.** Let a new device have gone through any
run, and take the areas that were asked to be refreshed since the last general status that succeeded.
They lie on the screen, and so does the region that is to be committed, whose edges are numbers of
sixteen bits in their order. After one more general status that succeeds:

1. At every point of one of the areas the colour last drawn there is shown, and nothing waits.
2. If the whole screen is among them, nothing waits at any point.
3. Outside of the smallest rectangle around them everything is as before.
4. If there are none, nothing has changed and nothing is shown. -/
theorem status_shows_what_was_asked (m : Model) (k : LinkKind) (g : Option Graphics) (os : List Op) :
    let e := (new m k g).after os
    let asked := (new m k g).asked os
    let drawn := (new m k g).drawn os
    ((∀ a, some a ∈ asked → a.Fits m.panel) ∧
      (∀ x₀ y₀ x₁ y₁, e.refresh = some (.region x₀ y₀ x₁ y₁) →
        (x₀ ≤ x₁ ∧ x₁ ≤ m.panel.width) ∧ y₀ ≤ y₁ ∧ y₁ ≤ m.panel.height) ∧
      m.panel.width < UInt16.size ∧ m.panel.height < UInt16.size) ∧
    ∀ bs outputs, (e.update ⟨.generalStatus, bs⟩).result = .ok outputs →
      let before := e.canvas.frame
      let after := (e.update ⟨.generalStatus, bs⟩).engine.canvas.frame
      (∀ x y, x < m.panel.width → y < m.panel.height → Refresh.Asked asked x y →
        after.screenAt x y = colorAt m.panel drawn x y ∧ after.pendingAt x y = none) ∧
      (none ∈ asked → after.isDirty = false) ∧
      (∀ x y, Refresh.Outside asked x y →
        after.screenAt x y = before.screenAt x y ∧ after.pendingAt x y = before.pendingAt x y) ∧
      (asked = [] → after = before ∧ outputs.filterMap Output.pixels? = []) := by
  intro e asked drawn
  have h : Depicts m drawn ((new m k g).screens os) asked e := depicts_after m k g os
  refine ⟨⟨h.fits, fun x₀ y₀ x₁ y₁ hr => ?_, panel_lt m⟩, fun bs outputs ho => ?_⟩
  · have hm := h.asked
    rw [hr] at hm
    exact hm.fits h.fits
  · have hs : (e.update ⟨.generalStatus, bs⟩) = e.finish := by
      have hf : e.finishes (.update ⟨.generalStatus, bs⟩) = true := by
        simp [finishes, ho, Except.isOk, Except.toBool]
      exact step_of_finishes hf
    intro before after
    have ha : after = e.committed.1 := by
      show (e.update ⟨.generalStatus, bs⟩).engine.canvas.frame = _
      rw [hs, frame_finish]
    have shown {x y : Nat} (hx : x < m.panel.width) (hy : y < m.panel.height) :
        (before.pendingAt x y).getD (before.screenAt x y) = colorAt m.panel drawn x y := by
      have on : before.OnScreen x y := by
        rw [Framebuffer.OnScreen, h.panel]
        exact ⟨hx, hy⟩
      have hd := h.drawn x y on
      rw [Framebuffer.pixel?, if_pos on] at hd
      exact Option.some.inj hd
    rw [ha]
    refine ⟨fun x y hx hy hm => ?_, fun hf => ?_, fun x y hout => ?_, fun hn => ?_⟩
    · obtain ⟨hp, hc⟩ := committed_of_asked h.asked hm
      exact ⟨hc.trans (shown hx hy), hp⟩
    · rw [Framebuffer.isDirty_eq_false_iff]
      exact fun x y => (committed_of_asked h.asked (.inl hf)).1
    · exact (committed_of_outside h.asked hout).symm
    · have hm := h.asked
      rw [hn] at hm
      have hc := committed_of_nil hm
      refine ⟨congrArg Prod.fst hc, ?_⟩
      have hp : outputs.filterMap Output.pixels? = e.finish.screens := by
        rw [← hs, Step.screens, ho]
      rw [hp, screens_finish, hc]
      rfl

/-- Two areas are refreshed and a rectangle is drawn: the point in the first area is shown, and the one
beyond both areas stays as it is. -/
theorem status_shows_rectangle :
    let e := new .nanoS .hid (some .nbgl)
    let os : List Op := [.update ⟨.nbglRefresh, [0, 0, 0, 0, 4, 0, 4, 0, 0, 0]⟩,
      .update ⟨.nbglRefresh, [8, 0, 8, 0, 4, 0, 4, 0, 0, 0]⟩,
      .update ⟨.nbglRect, [0, 0, 0, 0, 32, 0, 32, 0, 3, 0]⟩]
    let status : Packet := ⟨.generalStatus, [0, 0]⟩
    let after := ((e.after os).update status).engine.canvas.frame
    (∃ outputs, ((e.after os).update status).result = .ok outputs) ∧
      (e.after os).refresh = some (.region 0 0 12 12) ∧
      after.screenAt 1 1 = 0xFFFFFF ∧ after.pendingAt 1 1 = none ∧
      after.screenAt 20 20 = (e.after os).canvas.frame.screenAt 20 20 ∧
      after.pendingAt 20 20 = (e.after os).canvas.frame.pendingAt 20 20 := by
  intro e os status after
  have succeeds (e : Engine) : ∃ outputs, (e.update status).result = .ok outputs := by
    obtain ⟨model, graphics, ⟨frame, text⟩, cursor, link, rules, refresh, console⟩ := e
    exact ⟨_, rfl⟩
  obtain ⟨outputs, ho⟩ := succeeds (e.after os)
  have asked : e.asked os = [some ⟨0, 0, 4, 4, 0, .one⟩, some ⟨8, 8, 4, 4, 0, .one⟩] := by
    decide +kernel
  have drawn : colorAt Model.nanoS.panel (e.drawn os) 1 1 = 0xFFFFFF := by decide +kernel
  have region : (e.after os).refresh = some (.region 0 0 12 12) := by decide +kernel
  have inside : Refresh.Asked (e.asked os) 1 1 := by
    rw [asked]
    exact .inr ⟨_, List.mem_cons_self, by decide, by decide⟩
  have outside : Refresh.Outside (e.asked os) 20 20 := by
    rw [asked]
    refine ⟨by decide, .inr (.inl fun a ha => ?_)⟩
    simp only [List.mem_cons, Option.some.injEq, List.not_mem_nil, or_false] at ha
    rcases ha with rfl | rfl
    · decide
    · decide
  have h := (status_shows_what_was_asked .nanoS .hid (some .nbgl) os).2 [0, 0] outputs ho
  -- from here on the run is opaque: its facts are above, and no step may evaluate it again
  clear_value os
  obtain ⟨hc, hp⟩ := h.1 1 1 (by decide) (by decide) inside
  obtain ⟨hc', hp'⟩ := h.2.2.1 20 20 outside
  exact ⟨⟨outputs, ho⟩, region, hc.trans drawn, hp, hc', hp'⟩

end Seph.Engine
