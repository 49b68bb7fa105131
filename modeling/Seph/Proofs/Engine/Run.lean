import Mathlib.Data.List.Induction
import Seph.Proofs.Engine.Display
import Seph.Proofs.Wire

/-!
# What a device has on its screen after a run

What a run draws, shows and asks to be refreshed is told from its operations one by one
(`Engine.history`), and the display afterwards is told from that (`Engine.depicts_after`).
-/

namespace Seph

open Framebuffer (Stroke lastColor? overlay)

namespace Framebuffer

/-- The colour that strokes leave at a point of a black panel. -/
def colorAt (panel : Panel) (ss : List Stroke) (x y : Nat) : Color :=
  ((lastColor? ss x y).map panel.normalize).getD 0

theorem pixel?_paint_append {fb : Framebuffer} {ss ts : List Stroke} {x y : Nat} (ho : fb.OnScreen x y)
    (h : fb.pixel? x y = some (colorAt fb.panel ss x y)) :
    (fb.paint ts).pixel? x y = some (colorAt fb.panel (ss ++ ts) x y) := by
  rw [pixel?_paint fb ts x y ho, h, colorAt, colorAt, lastColor?_append, Option.map_or]
  cases (lastColor? ts x y).map fb.panel.normalize with
  | none => rfl
  | some c => rfl

/-- The pixels are some of a panel, from top to bottom, and in a row from left to right. -/
structure Ordered (panel : Panel) (ps : Array Pixel) : Prop where
  nonempty : ps.toList ≠ []
  inside : ∀ p ∈ ps.toList, p.x < panel.width ∧ p.y < panel.height
  sorted : ps.toList.Pairwise fun p q => p.y < q.y ∨ p.y = q.y ∧ p.x < q.x

end Framebuffer

open Framebuffer (colorAt Ordered)

namespace Engine

/-! ## Runs -/

def after (e : Engine) (os : List Op) : Engine := os.foldl (fun e o => (e.step o).engine) e

theorem after_cons (e : Engine) (o : Op) (os : List Op) :
    e.after (o :: os) = (e.step o).engine.after os := rfl

theorem after_concat (e : Engine) (os : List Op) (o : Op) :
    e.after (os ++ [o]) = ((e.after os).step o).engine := List.foldl_append

/-- The operations of a run, each with the engine that it finds. -/
def history (e : Engine) : List Op → List (Engine × Op)
  | [] => []
  | o :: os => (e, o) :: history (e.step o).engine os

theorem history_cons (e : Engine) (o : Op) (os : List Op) :
    e.history (o :: os) = (e, o) :: (e.step o).engine.history os := rfl

theorem history_concat (e : Engine) (os : List Op) (o : Op) :
    e.history (os ++ [o]) = e.history os ++ [(e.after os, o)] := by
  induction os generalizing e with
  | nil => rfl
  | cons _ os ih => exact congrArg (_ :: ·) (ih _)

/-- The strokes that a run draws, in order. -/
def drawn (e : Engine) (os : List Op) : List Stroke :=
  (e.history os).flatMap fun (e, o) => (e.wish o).strokes

/-- The lists of pixels that a run shows, in order. -/
def screens (e : Engine) (os : List Op) : List (Array Pixel) :=
  (e.history os).flatMap fun (e, o) => (e.step o).screens

/-- The areas that a run asks to be refreshed since the last general status that succeeded. -/
def asked (e : Engine) (os : List Op) : List (Option Nbgl.Area) :=
  (e.history os).foldl (fun as (e, o) => if e.finishes o then [] else as ++ (e.wish o).areas) []

/-- What a front end has on its screen after a run: it starts black, and draws the pixels that are
shown. -/
def frontEnd (e : Engine) (os : List Op) : Nat → Nat → Color :=
  overlay (fun _ _ => 0) ((e.screens os).flatMap Array.toList)

section Concat

variable (e : Engine) (os : List Op) (o : Op)

theorem drawn_concat : e.drawn (os ++ [o]) = e.drawn os ++ ((e.after os).wish o).strokes := by
  rw [drawn, history_concat, List.flatMap_append, List.flatMap_singleton, drawn]

theorem screens_concat : e.screens (os ++ [o]) = e.screens os ++ ((e.after os).step o).screens := by
  rw [screens, history_concat, List.flatMap_append, List.flatMap_singleton, screens]

theorem asked_concat : e.asked (os ++ [o]) =
    if (e.after os).finishes o then [] else e.asked os ++ ((e.after os).wish o).areas := by
  rw [asked, history_concat, List.foldl_append]
  rfl

end Concat

/-! ## What a run leaves -/

/-- The display of a device of this model is what came of strokes, of lists of pixels that were shown
and of areas that are asked to be refreshed. -/
structure Depicts (m : Model) (strokes : List Stroke) (screens : List (Array Pixel))
    (areas : List (Option Nbgl.Area)) (e : Engine) : Prop where
  panel : e.canvas.frame.panel = m.panel
  drawn : ∀ x y, e.canvas.frame.OnScreen x y →
    e.canvas.frame.pixel? x y = some (colorAt m.panel strokes x y)
  shown : overlay (fun _ _ => 0) (screens.flatMap Array.toList) = e.canvas.frame.screenAt
  ordered : ∀ ps ∈ screens, Ordered m.panel ps
  asked : Refresh.Merges areas e.refresh
  fits : ∀ a, some a ∈ areas → a.Fits m.panel

theorem depicts_new (m : Model) (k : LinkKind) (g : Option Graphics) :
    Depicts m [] [] [] (new m k g) where
  panel := rfl
  drawn _ _ ho := Framebuffer.pixel?_blank ho
  shown := by
    funext x y
    exact (Framebuffer.screenAt_blank m.panel x y).symm
  ordered := nofun
  asked := .nothing rfl
  fits := nofun

theorem merges_foldl {as : List (Option Nbgl.Area)} {r : Option Refresh}
    (h : Refresh.Merges as r) (bs : List (Option Nbgl.Area)) :
    Refresh.Merges (as ++ bs)
      (bs.foldl (fun r a => some (Refresh.add r (Refresh.ofArea? a))) r) := by
  induction bs generalizing as r with
  | nil => rwa [List.append_nil]
  | cons b bs ih =>
    have := ih (h.add b)
    rwa [List.append_assoc] at this

theorem exists_of_mem_accepted {α : Type} {e : Engine} {g : Graphics} {r : Except DrawError α}
    {wish : α → Wish} {a : Option Nbgl.Area} (h : a ∈ (e.accepted g r wish).areas) :
    ∃ b, r = .ok b ∧ a ∈ (wish b).areas := by
  unfold accepted at h
  split at h
  · cases r with
    | ok b => exact ⟨b, rfl, h⟩
    | error x => cases h
  · cases h

theorem fits_of_refreshArea {panel : Panel} {bs : Bytes} {a : Nbgl.Area}
    (h : Nbgl.refreshArea panel bs = .ok (some a)) : a.Fits panel := by
  obtain ⟨b, -, h⟩ := exists_ok_of_bind h
  cases b with
  | none => cases h
  | some b =>
    obtain ⟨⟨⟩, hc, h⟩ := exists_ok_of_bind h
    cases h
    exact Nbgl.Area.fits_of_check hc

theorem fits_of_mem_wish {e : Engine} {o : Op} {a : Nbgl.Area} (h : some a ∈ (e.wish o).areas) :
    a.Fits e.canvas.frame.panel := by
  cases o with
  | setRules | sendApdu => cases h
  | update p =>
    obtain ⟨tag, bs⟩ := p
    cases tag with
    | displayStatus | displayRawStatus =>
      obtain ⟨d, -, hm⟩ := exists_of_mem_accepted h
      cases List.mem_singleton.1 hm
    | nbglRect | nbglLine | nbglImage | nbglImageFile | nbglImageRle =>
      obtain ⟨d, -, hm⟩ := exists_of_mem_accepted h
      cases hm
    | nbglRefresh =>
      obtain ⟨b, hb, hm⟩ := exists_of_mem_accepted h
      cases List.mem_singleton.1 hm
      exact fits_of_refreshArea hb
    | generalStatus | printfStatus | printcStatus | rapdu | usbConfig | usbPrepare | powerOff | bleSend
      | bleRadioPower | playTune | mcu | requestStatus | buttonPush | finger | displayProcessed | ticker
      | usbEvent | usbTransfer | capdu => cases h

/-! ### Commits -/

section Commits

variable (e : Engine)

theorem committed_cases : e.committed = (e.canvas.frame, #[]) ∨
    ∃ x y w h, e.committed = e.canvas.frame.commit x y w h := by
  unfold committed
  cases e.refresh with
  | none => exact .inl rfl
  | some r => exact .inr (r.exists_commit e.canvas.frame)

theorem panel_committed : e.committed.1.panel = e.canvas.frame.panel := by
  rcases committed_cases e with h | ⟨x, y, w, h, hc⟩
  · rw [h]
  · rw [hc, Framebuffer.panel_commit]

theorem pixel?_committed (x y : Nat) : e.committed.1.pixel? x y = e.canvas.frame.pixel? x y := by
  rcases committed_cases e with h | ⟨u, v, w, h, hc⟩
  · rw [h]
  · rw [hc, Framebuffer.pixel?_commit]

theorem overlay_committed :
    overlay e.canvas.frame.screenAt e.committed.2.toList = e.committed.1.screenAt := by
  rcases committed_cases e with h | ⟨u, v, w, h, hc⟩
  · rw [h]
    rfl
  · rw [hc, Framebuffer.overlay_commit]

theorem ordered_committed {e : Engine} (hn : e.committed.2.toList ≠ []) :
    Ordered e.canvas.frame.panel e.committed.2 := by
  rcases committed_cases e with h | ⟨u, v, w, h, hc⟩
  · rw [h] at hn
    exact absurd rfl hn
  · rw [hc] at hn ⊢
    exact ⟨hn, fun p hp => Framebuffer.onScreen_of_mem_shown _ _ _ _ _ hp,
      Framebuffer.pairwise_shown _ _ _ _ _⟩

theorem flatMap_screens_finish :
    e.finish.screens.flatMap Array.toList = e.committed.2.toList := by
  rw [screens_finish]
  split
  · rename_i h
    rw [Array.isEmpty_iff.1 h]
    rfl
  · exact List.flatMap_singleton _ _

/-! What is committed is told from the areas that were asked for. -/

variable {e : Engine} {as : List (Option Nbgl.Area)} {x y : Nat}

theorem committed_of_nil (h : Refresh.Merges [] e.refresh) : e.committed = (e.canvas.frame, #[]) := by
  unfold committed
  cases hr : e.refresh with
  | none => rfl
  | some r =>
    rw [hr] at h
    exact h.not_nil.elim

theorem committed_of_asked (h : Refresh.Merges as e.refresh) (ha : Refresh.Asked as x y) :
    e.committed.1.pendingAt x y = none ∧ e.committed.1.screenAt x y =
      (e.canvas.frame.pendingAt x y).getD (e.canvas.frame.screenAt x y) := by
  unfold committed
  cases hr : e.refresh with
  | none =>
    rw [hr] at h
    cases h with
    | nothing h =>
      subst h
      rcases ha with ha | ⟨a, ha, -⟩ <;> cases ha
  | some r =>
    rw [hr] at h
    have hc := h.covers_of_asked ha
    exact ⟨Refresh.pendingAt_commit_of_covers hc, Refresh.screenAt_commit_of_covers hc⟩

theorem committed_of_outside (h : Refresh.Merges as e.refresh) (ho : Refresh.Outside as x y) :
    e.committed.1.pendingAt x y = e.canvas.frame.pendingAt x y ∧
      e.committed.1.screenAt x y = e.canvas.frame.screenAt x y := by
  unfold committed
  cases hr : e.refresh with
  | none => exact ⟨rfl, rfl⟩
  | some r =>
    rw [hr] at h
    exact Refresh.commit_of_not_covers (h.not_covers_of_outside ho)

end Commits

section Steps

variable {m : Model} {strokes : List Stroke} {shows : List (Array Pixel)}
  {areas : List (Option Nbgl.Area)} {e : Engine}

theorem Depicts.draw {w : Wish} {s : Step} (h : Depicts m strokes shows areas e) (hd : Draws e w s)
    (hw : ∀ a, some a ∈ w.areas → a.Fits m.panel) :
    Depicts m (strokes ++ w.strokes) (shows ++ s.screens) (areas ++ w.areas) s.engine where
  panel := by rw [hd.frame, Framebuffer.panel_paint, h.panel]
  drawn x y ho := by
    rw [hd.frame] at ho ⊢
    rw [Framebuffer.OnScreen, Framebuffer.panel_paint] at ho
    have hp := h.drawn x y ho
    rw [← h.panel] at hp ⊢
    exact Framebuffer.pixel?_paint_append ho hp
  shown := by
    rw [hd.screens, List.append_nil, h.shown, hd.frame]
    funext x y
    exact (Framebuffer.screenAt_paint _ _ x y).symm
  ordered := by
    rw [hd.screens, List.append_nil]
    exact h.ordered
  asked := by
    rw [hd.refresh]
    exact merges_foldl h.asked w.areas
  fits a ha := (List.mem_append.1 ha).elim (h.fits a) (hw a)

/-- A commit shows its pixels, and nothing is asked to be refreshed after it. -/
theorem Depicts.finish (h : Depicts m strokes shows areas e) :
    Depicts m strokes (shows ++ e.finish.screens) [] e.finish.engine where
  panel := by rw [frame_finish, panel_committed, h.panel]
  drawn x y ho := by
    rw [frame_finish] at ho ⊢
    rw [Framebuffer.OnScreen, panel_committed] at ho
    rw [pixel?_committed]
    exact h.drawn x y ho
  shown := by
    rw [List.flatMap_append, flatMap_screens_finish, Framebuffer.overlay_append, h.shown,
      overlay_committed, frame_finish]
  ordered ps hm := by
    rcases List.mem_append.1 hm with hm | hm
    · exact h.ordered ps hm
    · rw [screens_finish] at hm
      split at hm
      · cases hm
      · rename_i he
        obtain rfl := List.mem_singleton.1 hm
        rw [← h.panel]
        exact ordered_committed (by simpa using he)
  asked := by
    rw [refresh_finish]
    exact .nothing rfl
  fits := nofun

theorem wish_of_finishes {o : Op} (h : e.finishes o = true) : e.wish o = {} := by
  obtain ⟨bs, outputs, rfl, -⟩ := exists_of_finishes h
  rfl

/-- **Every operation adds what it draws, shows and asks for**, and a general status that succeeds
leaves nothing asked for. -/
theorem Depicts.step (h : Depicts m strokes shows areas e) (o : Op) :
    Depicts m (strokes ++ (e.wish o).strokes) (shows ++ (e.step o).screens)
      (if e.finishes o then [] else areas ++ (e.wish o).areas) (e.step o).engine := by
  cases hf : e.finishes o with
  | false =>
    exact h.draw (draws_step hf) fun a ha => h.panel ▸ fits_of_mem_wish ha
  | true =>
    rw [step_of_finishes hf, wish_of_finishes hf, List.append_nil]
    exact h.finish

end Steps

/-- **What a run leaves on the display.** -/
theorem depicts_after (m : Model) (k : LinkKind) (g : Option Graphics) (os : List Op) :
    let e := new m k g
    Depicts m (e.drawn os) (e.screens os) (e.asked os) (e.after os) := by
  induction os using List.reverseRecOn with
  | nil => exact depicts_new m k g
  | append_singleton os o ih =>
    dsimp only
    rw [drawn_concat, screens_concat, asked_concat, after_concat]
    exact Depicts.step ih o

end Engine
end Seph
