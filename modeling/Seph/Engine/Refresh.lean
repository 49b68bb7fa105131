import Seph.Display.Framebuffer
import Seph.Nbgl.Payload

/-!
# Refreshes

Between two commits the firmware may ask several times for the screen or parts of it to be
refreshed; what is committed is the smallest rectangle around all of them.
-/

namespace Seph

/-- What is to be refreshed. -/
inductive Refresh
  /-- The whole screen. -/
  | full
  /-- The columns `x₀, …, x₁ - 1` of the rows `y₀, …, y₁ - 1`. -/
  | region (x₀ y₀ x₁ y₁ : Nat)
  deriving DecidableEq, Repr

namespace Refresh

/-- The refresh of an area, or of the whole screen. -/
def ofArea? : Option Nbgl.Area → Refresh
  | none => full
  | some a =>
    region a.x0.toNat a.y0.toNat (a.x0.toNat + a.width.toNat) (a.y0.toNat + a.height.toNat)

/-- The refresh of all that two refreshes ask for. -/
def merge : Refresh → Refresh → Refresh
  | region x₀ y₀ x₁ y₁, region u₀ v₀ u₁ v₁ =>
    region (min x₀ u₀) (min y₀ v₀) (max x₁ u₁) (max y₁ v₁)
  | _, _ => full

/-- One more refresh after those that wait. -/
def add (r : Option Refresh) (s : Refresh) : Refresh :=
  match r with
  | some r => r.merge s
  | none => s

/-- Shows what a refresh asks for. -/
def commit (r : Refresh) (fb : Framebuffer) : Framebuffer × Array Pixel :=
  match r with
  | full => fb.commitAll
  | region x₀ y₀ x₁ y₁ => fb.commit x₀ y₀ (x₁ - x₀) (y₁ - y₀)

end Refresh
end Seph
