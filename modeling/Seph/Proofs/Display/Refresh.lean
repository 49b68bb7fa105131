import Seph.Engine.Refresh
import Seph.Nbgl.Drawing
import Seph.Proofs.Display.Commit

/-!
# What refreshes show

Between two commits any number of areas may be refreshed, and the whole screen too. What is committed
is told from them alone (`Merges`): the whole screen if it is among them, and else the smallest
rectangle around the areas.

1. `Merges.add`: one more refresh keeps it so.
2. `Merges.covers_of_asked`, `Merges.not_covers_of_outside`: what is committed covers all areas, and
   nothing outside of the smallest rectangle around them.
3. `Merges.fits`: a region that is committed lies on the screen if all areas do.
4. `pendingAt_commit_of_covers` and its companions: what a commit does to the points of a framebuffer.
-/

namespace Seph

open Nbgl (Area)

/-- A point lies in an area. -/
def Nbgl.Area.Contains (a : Area) (x y : Nat) : Prop :=
  (a.x0.toNat ≤ x ∧ x < a.x0.toNat + a.width.toNat) ∧
    a.y0.toNat ≤ y ∧ y < a.y0.toNat + a.height.toNat

/-- An area lies on a screen. -/
def Nbgl.Area.Fits (a : Area) (panel : Panel) : Prop :=
  a.x0.toNat + a.width.toNat ≤ panel.width ∧ a.y0.toNat + a.height.toNat ≤ panel.height

theorem Nbgl.Area.fits_of_check {a : Area} {panel : Panel} (h : a.check panel = .ok ()) :
    a.Fits panel := by
  unfold Area.check at h
  split at h
  · cases h
  · split at h
    · cases h
    · unfold Area.Fits
      omega

namespace Refresh

/-! ## Areas -/

/-- One of the refreshes is of an area with the point in it, or of the whole screen. -/
def Asked (as : List (Option Area)) (x y : Nat) : Prop :=
  none ∈ as ∨ ∃ a, some a ∈ as ∧ a.Contains x y

/-- The point lies outside of the smallest rectangle around the areas, that is, to one side of all of
them. Nothing lies outside of the whole screen. -/
def Outside (as : List (Option Area)) (x y : Nat) : Prop :=
  none ∉ as ∧
    ((∀ a, some a ∈ as → x < a.x0.toNat) ∨
      (∀ a, some a ∈ as → a.x0.toNat + a.width.toNat ≤ x) ∨
      (∀ a, some a ∈ as → y < a.y0.toNat) ∨
      ∀ a, some a ∈ as → a.y0.toNat + a.height.toNat ≤ y)

/-- These are the edges of the smallest rectangle around areas. -/
structure Bounds (as : List (Option Area)) (x₀ y₀ x₁ y₁ : Nat) : Prop where
  around : ∀ a, some a ∈ as → (x₀ ≤ a.x0.toNat ∧ a.x0.toNat + a.width.toNat ≤ x₁) ∧
    y₀ ≤ a.y0.toNat ∧ a.y0.toNat + a.height.toNat ≤ y₁
  left : ∃ a, some a ∈ as ∧ a.x0.toNat = x₀
  top : ∃ a, some a ∈ as ∧ a.y0.toNat = y₀
  right : ∃ a, some a ∈ as ∧ a.x0.toNat + a.width.toNat = x₁
  bottom : ∃ a, some a ∈ as ∧ a.y0.toNat + a.height.toNat = y₁

/-- What is committed after refreshes. -/
inductive Merges (as : List (Option Area)) : Option Refresh → Prop
  | nothing (h : as = []) : Merges as none
  | full (h : none ∈ as) : Merges as (some .full)
  | region {x₀ y₀ x₁ y₁ : Nat} (h : none ∉ as) (b : Bounds as x₀ y₀ x₁ y₁) :
    Merges as (some (.region x₀ y₀ x₁ y₁))

section Edges

variable {as : List (Option Area)} {edge : Area → Nat} {m : Nat}

theorem exists_min (h : ∃ b, some b ∈ as ∧ edge b = m) (a : Area) :
    ∃ b, some b ∈ as ++ [some a] ∧ edge b = min m (edge a) := by
  obtain ⟨b, hb, rfl⟩ := h
  rcases Nat.le_total (edge b) (edge a) with hl | hl
  · exact ⟨b, List.mem_append_left _ hb, (Nat.min_eq_left hl).symm⟩
  · exact ⟨a, List.mem_append_right _ (List.mem_singleton.2 rfl), (Nat.min_eq_right hl).symm⟩

theorem exists_max (h : ∃ b, some b ∈ as ∧ edge b = m) (a : Area) :
    ∃ b, some b ∈ as ++ [some a] ∧ edge b = max m (edge a) := by
  obtain ⟨b, hb, rfl⟩ := h
  rcases Nat.le_total (edge b) (edge a) with hl | hl
  · exact ⟨a, List.mem_append_right _ (List.mem_singleton.2 rfl), (Nat.max_eq_right hl).symm⟩
  · exact ⟨b, List.mem_append_left _ hb, (Nat.max_eq_left hl).symm⟩

end Edges

theorem Bounds.single (a : Area) : Bounds [some a] a.x0.toNat a.y0.toNat
    (a.x0.toNat + a.width.toNat) (a.y0.toNat + a.height.toNat) where
  around b hb := by
    cases List.mem_singleton.1 hb
    omega
  left := ⟨a, List.mem_singleton.2 rfl, rfl⟩
  top := ⟨a, List.mem_singleton.2 rfl, rfl⟩
  right := ⟨a, List.mem_singleton.2 rfl, rfl⟩
  bottom := ⟨a, List.mem_singleton.2 rfl, rfl⟩

theorem Bounds.add {as : List (Option Area)} {x₀ y₀ x₁ y₁ : Nat} (h : Bounds as x₀ y₀ x₁ y₁)
    (a : Area) : Bounds (as ++ [some a]) (min x₀ a.x0.toNat) (min y₀ a.y0.toNat)
      (max x₁ (a.x0.toNat + a.width.toNat)) (max y₁ (a.y0.toNat + a.height.toNat)) where
  around b hb := by
    rcases List.mem_append.1 hb with hb | hb
    · have := h.around b hb
      omega
    · cases List.mem_singleton.1 hb
      omega
  left := exists_min h.left a
  top := exists_min h.top a
  right := exists_max h.right a
  bottom := exists_max h.bottom a

/-- **One more refresh keeps what is committed the smallest rectangle around all.** -/
theorem Merges.add {as : List (Option Area)} {r : Option Refresh} (h : Merges as r)
    (a : Option Area) : Merges (as ++ [a]) (some (Refresh.add r (ofArea? a))) := by
  cases a with
  | none =>
    have hm : none ∈ as ++ [none] := List.mem_append_right _ (List.mem_singleton.2 rfl)
    cases h with
    | nothing | full | region => exact .full hm
  | some a =>
    cases h with
    | nothing h =>
      subst h
      exact .region (by simp) (.single a)
    | full h => exact .full (List.mem_append_left _ h)
    | region h b => exact .region (by simp [h]) (b.add a)

/-- The point is among those that a refresh shows. -/
def Covers : Refresh → Nat → Nat → Prop
  | full, _, _ => True
  | region x₀ y₀ x₁ y₁, x, y => (x₀ ≤ x ∧ x < x₁) ∧ y₀ ≤ y ∧ y < y₁

section Merged

variable {as : List (Option Area)} {r : Refresh} {x y : Nat}

/-- What is committed covers all areas. -/
theorem Merges.covers_of_asked (h : Merges as (some r)) (ha : Asked as x y) : r.Covers x y := by
  cases h with
  | full => trivial
  | region h b =>
    obtain ⟨a, hm, hc⟩ := ha.resolve_left h
    have := b.around a hm
    unfold Area.Contains at hc
    unfold Covers
    omega

/-- What is committed covers nothing outside of the smallest rectangle around the areas. -/
theorem Merges.not_covers_of_outside (h : Merges as (some r)) (ho : Outside as x y) :
    ¬ r.Covers x y := by
  obtain ⟨hn, ho⟩ := ho
  cases h with
  | full h => exact absurd h hn
  | region _ b =>
    obtain ⟨a, ha, hl⟩ := b.left
    obtain ⟨c, hc, hr⟩ := b.right
    obtain ⟨d, hd, ht⟩ := b.top
    obtain ⟨e, he, hb⟩ := b.bottom
    unfold Covers
    rcases ho with ho | ho | ho | ho
    · have := ho a ha
      omega
    · have := ho c hc
      omega
    · have := ho d hd
      omega
    · have := ho e he
      omega

theorem Merges.not_nil (h : Merges [] (some r)) : False := by
  cases h with
  | full h => cases h
  | region _ b =>
    obtain ⟨a, ha, -⟩ := b.left
    cases ha

theorem Merges.fits {panel : Panel} {x₀ y₀ x₁ y₁ : Nat}
    (h : Merges as (some (.region x₀ y₀ x₁ y₁))) (hf : ∀ a, some a ∈ as → a.Fits panel) :
    (x₀ ≤ x₁ ∧ x₁ ≤ panel.width) ∧ y₀ ≤ y₁ ∧ y₁ ≤ panel.height := by
  cases h with
  | region _ b =>
    obtain ⟨c, hc, hr⟩ := b.right
    obtain ⟨e, he, hb⟩ := b.bottom
    have := b.around c hc
    have := b.around e he
    have := hf c hc
    have := hf e he
    unfold Area.Fits at *
    omega

end Merged

/-! ## Committing -/

theorem exists_commit (r : Refresh) (fb : Framebuffer) :
    ∃ x y w h, r.commit fb = fb.commit x y w h := by
  cases r with
  | full => exact ⟨_, _, _, _, rfl⟩
  | region => exact ⟨_, _, _, _, rfl⟩

section Committing

variable {r : Refresh} {fb : Framebuffer} {x y : Nat}

theorem pendingAt_commit_of_covers (h : r.Covers x y) : (r.commit fb).1.pendingAt x y = none := by
  cases r with
  | full =>
    refine (Framebuffer.pendingAt_commit fb _ _ _ _ _ _).trans ?_
    by_cases ho : fb.OnScreen x y
    · exact if_pos (by omega)
    · rw [Framebuffer.pendingAt_of_off ho, ite_self]
  | region x₀ y₀ x₁ y₁ =>
    refine (Framebuffer.pendingAt_commit fb _ _ _ _ _ _).trans (if_pos ?_)
    unfold Covers at h
    omega

theorem screenAt_commit_of_covers (h : r.Covers x y) :
    (r.commit fb).1.screenAt x y = (fb.pendingAt x y).getD (fb.screenAt x y) := by
  cases r with
  | full =>
    refine (Framebuffer.screenAt_commit fb _ _ _ _ _ _).trans ?_
    by_cases ho : fb.OnScreen x y
    · exact if_pos (by omega)
    · rw [Framebuffer.pendingAt_of_off ho, Option.getD_none, ite_self]
  | region x₀ y₀ x₁ y₁ =>
    refine (Framebuffer.screenAt_commit fb _ _ _ _ _ _).trans (if_pos ?_)
    unfold Covers at h
    omega

theorem commit_of_not_covers (h : ¬ r.Covers x y) :
    (r.commit fb).1.pendingAt x y = fb.pendingAt x y ∧
      (r.commit fb).1.screenAt x y = fb.screenAt x y := by
  cases r with
  | full => exact absurd trivial h
  | region x₀ y₀ x₁ y₁ =>
    unfold Covers at h
    exact ⟨(Framebuffer.pendingAt_commit fb _ _ _ _ _ _).trans (if_neg (by omega)),
      (Framebuffer.screenAt_commit fb _ _ _ _ _ _).trans (if_neg (by omega))⟩

end Committing

end Refresh
end Seph
