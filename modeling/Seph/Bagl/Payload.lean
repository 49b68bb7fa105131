import Seph.Packet.Basic
import Seph.Text.Utf8

/-!
# BAGL payloads

The drawing commands of the BAGL library: components of 24 bytes with a context behind them, and
raw bitmaps in one or several pieces.
-/

namespace Seph.Bagl

/-- The kind of a component. -/
inductive Kind
  | none
  | button
  | label
  | rectangle
  | line
  | icon
  | circle
  | labeline
  deriving DecidableEq, Repr

namespace Kind

def code : Kind → UInt8
  | none => 0
  | button => 1
  | label => 2
  | rectangle => 3
  | line => 4
  | icon => 5
  | circle => 6
  | labeline => 7

def ofCode? (b : UInt8) : Option Kind :=
  [none, button, label, rectangle, line, icon, circle, labeline].find? fun k => k.code == b

end Kind

/-- Where a text stands between the left and right end of its box. -/
inductive HAlign
  | left
  | right
  | center
  deriving DecidableEq, Repr

/-- Where a text stands between the top and bottom of its box. -/
inductive VAlign
  | top
  | bottom
  | middle
  deriving DecidableEq, Repr

/-- A component of the screen. -/
structure Component where
  kind : Kind
  userId : UInt8
  x : Int16
  y : Int16
  width : UInt16
  height : UInt16
  stroke : UInt8
  radius : UInt8
  fill : UInt8
  fgColor : UInt32
  bgColor : UInt32
  fontId : UInt16
  iconId : UInt8
  deriving DecidableEq, Repr

namespace Component

/-- The bits of the font field that say the horizontal alignment. -/
def hBits (c : Component) : UInt16 := c.fontId &&& 0xC000

/-- The bits of the font field that say the vertical alignment. -/
def vBits (c : Component) : UInt16 := c.fontId &&& 0x3000

/-- The font, without the alignment bits. -/
def font (c : Component) : UInt16 := c.fontId &&& 0x0FFF

/-- The horizontal alignment; a meaningless pair of bits is left. -/
def hAlign (c : Component) : HAlign :=
  if c.hBits = 0x4000 then .right else if c.hBits = 0x8000 then .center else .left

/-- The vertical alignment; a meaningless pair of bits is top. -/
def vAlign (c : Component) : VAlign :=
  if c.vBits = 0x2000 then .middle else if c.vBits = 0x1000 then .bottom else .top

/-- The shape is filled with the foreground colour. -/
def filled (c : Component) : Bool := c.fill == 1

/-- 24 bytes, low bytes first. -/
def encode (c : Component) : Bytes :=
  c.kind.code :: c.userId :: (Word.le16 c.x.toUInt16 ++ Word.le16 c.y.toUInt16 ++
    Word.le16 c.width ++ Word.le16 c.height ++ [c.stroke, c.radius, c.fill] ++
    Word.le32 c.fgColor ++ Word.le32 c.bgColor ++ Word.le16 c.fontId ++ [c.iconId])

/-- A component at the start of the bytes, and the context after it. The highest bit of the kind
marks a component that can be touched and is ignored. -/
def decode : Bytes → Except WireError (Component × Bytes)
  | kind :: userId :: x₁ :: x₂ :: y₁ :: y₂ :: w₁ :: w₂ :: h₁ :: h₂ :: stroke :: radius :: fill ::
      f₁ :: f₂ :: f₃ :: f₄ :: b₁ :: b₂ :: b₃ :: b₄ :: t₁ :: t₂ :: iconId :: rest =>
    match Kind.ofCode? (kind &&& 0x7F) with
    | some kind => .ok (
      { kind, userId
        x := (Word.ofLE16 x₁ x₂).toInt16
        y := (Word.ofLE16 y₁ y₂).toInt16
        width := Word.ofLE16 w₁ w₂
        height := Word.ofLE16 h₁ h₂
        stroke, radius, fill
        fgColor := Word.ofLE32 f₁ f₂ f₃ f₄
        bgColor := Word.ofLE32 b₁ b₂ b₃ b₄
        fontId := Word.ofLE16 t₁ t₂
        iconId }, rest)
    | Option.none => .error .badEncoding
  | _ => .error .badLength

end Component

/-! ## Bitmaps -/

/-- `n` colours of four bytes each at the start of the bytes, and the bytes after them. -/
def takeColors (read : UInt8 → UInt8 → UInt8 → UInt8 → UInt32) :
    Nat → Bytes → Option (List UInt32 × Bytes)
  | 0, rest => some ([], rest)
  | n + 1, a :: b :: c :: d :: rest =>
    (takeColors read n rest).map fun (colors, rest) => (read a b c d :: colors, rest)
  | _ + 1, _ => none

/-- The colours of a bitmap of `depth` bits for each pixel: one for each pixel value. -/
def colorTable (read : UInt8 → UInt8 → UInt8 → UInt8 → UInt32) (depth : UInt8) (bs : Bytes) :
    Except WireError (List UInt32 × Bytes) :=
  if depth > 8 then .error .badEncoding
  else match takeColors read (Nat.pow 2 depth.toNat) bs with
    | some r => .ok r
    | none => .error .badLength

/-- The place, size, depth and colours of a raw bitmap. -/
structure BitmapHeader where
  x : Int16
  y : Int16
  width : UInt16
  height : UInt16
  depth : UInt8
  colors : List UInt32
  deriving DecidableEq, Repr

/-- A piece of a raw bitmap: the first with its header, or a later one. -/
inductive RawStatus
  | start (header : BitmapHeader) (bitmap : Bytes)
  | more (bitmap : Bytes)
  deriving DecidableEq, Repr

namespace RawStatus

def bitmap : RawStatus → Bytes
  | start _ b => b
  | more b => b

/-- A zero byte, the header with high bytes first and the bytes; or a one byte and the bytes. -/
def encode : RawStatus → Bytes
  | start h bitmap =>
    0 :: (Word.be16 h.x.toUInt16 ++ Word.be16 h.y.toUInt16 ++ Word.be16 h.width ++
      Word.be16 h.height ++ h.depth :: h.colors.flatMap Word.be32 ++ bitmap)
  | more bitmap => 1 :: bitmap

/-- The piece that the bytes are. -/
def decode : Bytes → Except WireError RawStatus
  | [] => .error .badLength
  | b :: rest =>
    if b = 0 then
      match rest with
      | x₁ :: x₂ :: y₁ :: y₂ :: w₁ :: w₂ :: h₁ :: h₂ :: depth :: rest => do
        let (colors, bitmap) ← colorTable Word.ofBE32 depth rest
        return start
          { x := (Word.ofBE16 x₁ x₂).toInt16
            y := (Word.ofBE16 y₁ y₂).toInt16
            width := Word.ofBE16 w₁ w₂
            height := Word.ofBE16 h₁ h₂
            depth, colors } bitmap
      | _ => .error .badLength
    else if b = 1 then .ok (more rest)
    else .error .badEncoding

end RawStatus

/-- The bitmap of an icon that a component brings itself. -/
structure CustomIcon where
  depth : UInt8
  colors : List UInt32
  bitmap : Bytes
  deriving DecidableEq, Repr

/-- The icon that a component's context is. -/
def CustomIcon.decode : Bytes → Except WireError CustomIcon
  | [] => .error .badLength
  | depth :: rest => do
    let (colors, bitmap) ← colorTable Word.ofLE32 depth rest
    return ⟨depth, colors, bitmap⟩

/-- The bytes of a context up to the first zero byte. -/
def contextBytes (ctx : Bytes) : Bytes := ctx.takeWhile (· != 0)

/-- The text of a context, up to the first zero byte. -/
def contextText (ctx : Bytes) : String := Utf8.repair (contextBytes ctx)

end Seph.Bagl
