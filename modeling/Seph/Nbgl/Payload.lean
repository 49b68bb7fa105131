import Seph.Packet.Basic

/-!
# NBGL payloads

The drawing commands of the NBGL library. Each opens with the area it draws in, ten bytes with low
bytes first; images may end with the character that they show.
-/

namespace Seph.Nbgl

/-- The number of bits that one pixel takes. -/
inductive Depth
  | one
  | two
  | four
  deriving DecidableEq, Repr

namespace Depth

def bits : Depth → Nat
  | one => 1
  | two => 2
  | four => 4

/-- The number of a depth in an area. -/
def code : Depth → UInt8
  | one => 0
  | two => 1
  | four => 2

def ofCode? (b : UInt8) : Option Depth := [one, two, four].find? fun d => d.code == b

/-- The depth with a given number of bits, as the header of an image file says it. -/
def ofBits? (n : Nat) : Option Depth := [one, two, four].find? fun d => d.bits == n

/-- The bytes that `count` pixels take, the last one perhaps in part. -/
def packedSize (d : Depth) (count : Nat) : Nat := (count * d.bits + 7) / 8

end Depth

/-- The order in which an image lists its pixels. -/
inductive Order
  /-- Columns from the top right. -/
  | plain
  /-- Columns from the top left. -/
  | flipHorizontal
  /-- Columns from the bottom right. -/
  | flipVertical
  /-- Columns from the bottom left. -/
  | flipBoth
  /-- Rows from the top left. -/
  | rows
  deriving DecidableEq, Repr

namespace Order

def code : Order → UInt8
  | plain => 0
  | flipHorizontal => 1
  | flipVertical => 2
  | flipBoth => 3
  | rows => 4

def ofCode? (b : UInt8) : Option Order :=
  [plain, flipHorizontal, flipVertical, flipBoth, rows].find? fun o => o.code == b

end Order

/-- How the data of an image file is compressed. -/
inductive Compression
  | none
  | gzip
  | runs
  deriving DecidableEq, Repr

namespace Compression

def code : Compression → UInt8
  | none => 0
  | gzip => 1
  | runs => 2

def ofCode? (b : UInt8) : Option Compression := [none, gzip, runs].find? fun c => c.code == b

end Compression

/-! ## Areas -/

/-- The rectangle that a command draws in, with its colour and depth. -/
structure Area where
  x0 : UInt16
  y0 : UInt16
  width : UInt16
  height : UInt16
  color : UInt8
  depth : Depth
  deriving DecidableEq, Repr

namespace Area

def pixels (a : Area) : Nat := a.width.toNat * a.height.toNat

/-- Ten bytes: corner and size with low bytes first, colour, depth. -/
def encode (a : Area) : Bytes :=
  Word.le16 a.x0 ++ Word.le16 a.y0 ++ Word.le16 a.width ++ Word.le16 a.height ++
    [a.color, a.depth.code]

/-- An area at the start of the bytes, and the bytes after it. -/
def decode : Bytes → Except WireError (Area × Bytes)
  | x₁ :: x₂ :: y₁ :: y₂ :: w₁ :: w₂ :: h₁ :: h₂ :: color :: depth :: rest =>
    match Depth.ofCode? depth with
    | some depth =>
      .ok (⟨Word.ofLE16 x₁ x₂, Word.ofLE16 y₁ y₂, Word.ofLE16 w₁ w₂, Word.ofLE16 h₁ h₂,
        color, depth⟩, rest)
    | none => .error .badEncoding
  | _ => .error .badLength

/-- The area of a refresh; an empty payload stands for the whole screen. -/
def ofRefresh (bs : Bytes) : Except WireError (Option Area) :=
  if bs.isEmpty then .ok none
  else (decode bs).map fun (a, _) => some a

end Area

/-! ## Stamps -/

/-- The character of a code point, where there is one. -/
def charOf? (n : Nat) : Option Char :=
  if h : n.isValidChar then some (Char.ofNatAux n h) else none

/-- The character that the first four of the bytes left after an image spell, low byte first. -/
def stampOf? : Bytes → Option Char
  | a :: b :: c :: d :: _ => charOf? (Word.ofLE [a, b, c, d])
  | _ => none

def stampBytes : Option Char → Bytes
  | some c => Word.toLE 4 c.toNat
  | none => []

/-! ## Commands -/

/-- A block of rows: row `r` below 8 takes `color` where bit `r` of the mask is set. -/
structure Line where
  area : Area
  mask : UInt8
  color : UInt8
  deriving DecidableEq, Repr

/-- A line at the start of the bytes, and the bytes after it. -/
def Line.decode (bs : Bytes) : Except WireError (Line × Bytes) := do
  let (area, rest) ← Area.decode bs
  match rest with
  | mask :: color :: rest => return (⟨area, mask, color⟩, rest)
  | _ => throw .badLength

/-- An image with its pixels packed from the highest bits of each byte. -/
structure Image where
  area : Area
  order : Order
  colorMap : UInt8
  pixels : Bytes
  stamp : Option Char
  deriving DecidableEq, Repr

namespace Image

/-- Area, order, colour map, pixels, stamp. -/
def encode (i : Image) : Bytes :=
  i.area.encode ++ i.order.code :: i.colorMap :: i.pixels ++ stampBytes i.stamp

/-- The image that the bytes are. The pixels are the bytes that the area takes, or as many as there
are; a stamp may follow. -/
def decode (bs : Bytes) : Except WireError Image := do
  let (area, rest) ← Area.decode bs
  match rest with
  | order :: colorMap :: rest =>
    match Order.ofCode? order with
    | none => throw .badEncoding
    | some order =>
      let n := area.depth.packedSize area.pixels
      return ⟨area, order, colorMap, rest.take n, stampOf? (rest.drop n)⟩
  | _ => throw .badLength

end Image

/-- An image that says its own size, depth and compression. -/
structure File where
  width : UInt16
  height : UInt16
  depth : Depth
  compression : Compression
  data : Bytes
  deriving DecidableEq, Repr

namespace File

/-- The longest data that the three bytes of the size can say. -/
def maxData : Nat := 0xFFFFFF

/-- Width, height, depth and compression in one byte, size in three bytes, data. -/
def encode (f : File) : Except WireError Bytes :=
  if f.data.length > maxData then .error (.tooLarge f.data.length)
  else .ok (Word.le16 f.width ++ Word.le16 f.height ++
    UInt8.ofNat (f.depth.bits * 16 + f.compression.code.toNat) ::
      (Word.toLE 3 f.data.length ++ f.data))

/-- An image file at the start of the bytes, and the bytes after it. -/
def decode : Bytes → Except WireError (File × Bytes)
  | w₁ :: w₂ :: h₁ :: h₂ :: kind :: s₁ :: s₂ :: s₃ :: rest =>
    match Depth.ofBits? (kind.toNat / 16), Compression.ofCode? (kind &&& 0x0F) with
    | some depth, some compression =>
      let size := Word.ofLE [s₁, s₂, s₃]
      if rest.length < size then .error .badLength
      else .ok (⟨Word.ofLE16 w₁ w₂, Word.ofLE16 h₁ h₂, depth, compression, rest.take size⟩,
        rest.drop size)
    | _, _ => .error .badEncoding
  | _ => .error .badLength

end File

/-- An image file drawn in an area. -/
structure FileImage where
  area : Area
  file : File
  stamp : Option Char
  deriving DecidableEq, Repr

/-- The image that the bytes are; a stamp may follow the file. -/
def FileImage.decode (bs : Bytes) : Except WireError FileImage := do
  let (area, rest) ← Area.decode bs
  let (file, rest) ← File.decode rest
  return ⟨area, file, stampOf? rest⟩

/-- An image in run-length code. -/
structure RunImage where
  area : Area
  data : Bytes
  colorMap : UInt8
  stamp : Option Char
  deriving DecidableEq, Repr

namespace RunImage

/-- Area, size of the data in four bytes (taken modulo `2 ^ 32`), data, colour map, stamp. -/
def encode (i : RunImage) : Bytes :=
  i.area.encode ++ Word.toLE 4 i.data.length ++ i.data ++ i.colorMap :: stampBytes i.stamp

/-- The image that the bytes are; a stamp may follow the colour map. -/
def decode (bs : Bytes) : Except WireError RunImage := do
  let (area, rest) ← Area.decode bs
  match rest with
  | a :: b :: c :: d :: rest =>
    let size := Word.ofLE [a, b, c, d]
    match rest.drop size with
    | colorMap :: after => return ⟨area, rest.take size, colorMap, stampOf? after⟩
    | [] => throw .badLength
  | _ => throw .badLength

end RunImage
end Seph.Nbgl
