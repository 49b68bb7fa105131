/-!
# Devices

The device models and what is fixed for each: the screen, the box that frames it in a window, and
the graphics library of its firmware. Every choice that a user makes by name has one lower-case
name (`Model.ofName?_name` and its companions).
-/

namespace Seph

/-- The graphics library that a firmware draws with. -/
inductive Graphics
  | bagl
  | nbgl
  deriving DecidableEq, Repr

namespace Graphics

def all : List Graphics := [bagl, nbgl]

def name : Graphics → String
  | bagl => "bagl"
  | nbgl => "nbgl"

def ofName? (s : String) : Option Graphics := all.find? fun g => g.name == s

@[simp] theorem ofName?_name (g : Graphics) : ofName? g.name = some g := by cases g <;> rfl

end Graphics

/-- How APDUs reach the firmware. -/
inductive LinkKind
  | hid
  | u2f
  | nfc
  deriving DecidableEq, Repr

namespace LinkKind

def all : List LinkKind := [hid, u2f, nfc]

def name : LinkKind → String
  | hid => "hid"
  | u2f => "u2f"
  | nfc => "nfc"

def ofName? (s : String) : Option LinkKind := all.find? fun k => k.name == s

@[simp] theorem ofName?_name (k : LinkKind) : ofName? k.name = some k := by cases k <;> rfl

end LinkKind

/-- A screen: its size in pixels, and whether a pixel is either black or white. -/
structure Panel where
  width : Nat
  height : Nat
  monochrome : Bool
  deriving DecidableEq, Repr

/-- A device model. -/
inductive Model
  | nanoS
  | nanoX
  | nanoSP
  | blue
  | stax
  | flex
  deriving DecidableEq, Repr

namespace Model

def all : List Model := [nanoS, nanoX, nanoSP, blue, stax, flex]

def name : Model → String
  | nanoS => "nanos"
  | nanoX => "nanox"
  | nanoSP => "nanosp"
  | blue => "blue"
  | stax => "stax"
  | flex => "flex"

def ofName? (s : String) : Option Model := all.find? fun m => m.name == s

@[simp] theorem ofName?_name (m : Model) : ofName? m.name = some m := by cases m <;> rfl

def panel : Model → Panel
  | nanoS => ⟨128, 32, true⟩
  | nanoX => ⟨128, 64, true⟩
  | nanoSP => ⟨128, 64, true⟩
  | blue => ⟨320, 480, false⟩
  | stax => ⟨400, 672, false⟩
  | flex => ⟨480, 600, false⟩

/-- The corner of the device box in a window. -/
def boxPosition : Model → Nat × Nat
  | nanoS => (20, 13)
  | nanoX | nanoSP => (5, 5)
  | _ => (13, 13)

/-- The width of the device box beside and above the screen. -/
def boxSize : Model → Nat × Nat
  | nanoS => (100, 26)
  | nanoX | nanoSP => (10, 10)
  | _ => (26, 26)

/-- The gap between two characters from which on they are not one text. -/
def maxGap : Model → Nat
  | nanoS | nanoX | nanoSP => 12
  | blue | stax => 24
  | flex => 26

/-- Text is read from the raw bitmaps of these models. -/
def readsRawBitmaps : Model → Bool
  | nanoX | nanoSP => true
  | _ => false

/-- The library that the firmware of a model draws with. -/
def graphics : Model → Graphics
  | stax | flex => .nbgl
  | _ => .bagl

end Model

/-- A button, or both at once. -/
inductive Button
  | left
  | right
  | both
  deriving DecidableEq, Repr

namespace Button

def all : List Button := [left, right, both]

def name : Button → String
  | left => "left"
  | right => "right"
  | both => "both"

def ofName? (s : String) : Option Button := all.find? fun b => b.name == s

@[simp] theorem ofName?_name (b : Button) : ofName? b.name = some b := by cases b <;> rfl

/-- The bits of a button in a mask of pressed buttons. -/
def mask : Button → UInt8
  | left => 1
  | right => 2
  | both => 3

def ofMask? (m : UInt8) : Option Button := all.find? fun b => b.mask == m

end Button
end Seph
