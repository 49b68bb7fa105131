import Seph.Display.Framebuffer
import Seph.Picture.Checksum

/-!
# PNG pictures

A picture of colours as a PNG file: eight bits for each of red, green and blue, no filter, and the
data stored without compression. The first 33 bytes depend on the size only (`header`).
-/

namespace Seph.Png

/-- The first bytes of every file. -/
def signature : Bytes := [0x89, 0x50, 0x4E, 0x47, 0x0D, 0x0A, 0x1A, 0x0A]

/-- A chunk: the length of its data, its name, the data, and a check value of name and data. -/
def chunk (name data : Bytes) : Bytes :=
  Word.toBE 4 data.length ++ name ++ data ++ Word.be32 (Crc32.ofBytes (name ++ data))

/-- The signature and the chunk that says how the picture is stored. -/
def header (width height : Nat) : Bytes :=
  signature ++ chunk [0x49, 0x48, 0x44, 0x52]
    (Word.toBE 4 width ++ Word.toBE 4 height ++ [8, 2, 0, 0, 0])

/-- Red, green and blue of a colour. -/
def rgb (c : Color) : Bytes := [(c >>> 16).toUInt8, (c >>> 8).toUInt8, c.toUInt8]

/-- The rows of a picture of `width` columns, each behind the number of its filter. -/
def rows (width : Nat) : Nat → List Color → Bytes
  | 0, _ => []
  | height + 1, cs => 0 :: (cs.take width).flatMap rgb ++ rows width height (cs.drop width)

/-- The check value of stored data: two sums modulo 65521. -/
def adler (data : Bytes) : Nat :=
  let (a, b) := data.foldl (fun (a, b) x =>
    let a := (a + x.toNat) % 65521
    (a, (b + a) % 65521)) (1, 0)
  b * 65536 + a

/-- The longest block of stored data. -/
def maxBlock : Nat := 65535

/-- The blocks of stored data: whether it is the last, its length, the length's complement, the
data. -/
def blocks : List Bytes → Bytes
  | [] => []
  | [piece] => 1 :: Word.toLE 2 piece.length ++ Word.toLE 2 (maxBlock - piece.length) ++ piece
  | piece :: pieces =>
    0 :: Word.toLE 2 piece.length ++ Word.toLE 2 (maxBlock - piece.length) ++ piece ++ blocks pieces

/-- Data stored without compression. -/
def stored (data : Bytes) : Bytes :=
  [0x78, 0x01] ++ blocks (Bytes.pieces maxBlock data) ++ Word.toBE 4 (adler data)

/-- The file of a picture, its colours row by row. -/
def encode (width height : Nat) (colors : List Color) : Bytes :=
  header width height ++ chunk [0x49, 0x44, 0x41, 0x54] (stored (rows width height colors)) ++
    chunk [0x49, 0x45, 0x4E, 0x44] []

@[simp] theorem length_header (width height : Nat) : (header width height).length = 33 := by
  simp [header, signature, chunk, Word.be32]

end Seph.Png
