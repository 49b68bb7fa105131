import Seph.Packet.Error

/-!
# Drawing errors

Why a drawing command is refused. A refused command draws nothing.
-/

namespace Seph

/-- What is wrong with the data of an image. -/
inductive ImageFault
  | truncatedSingles
  | fileSize
  | noRunsForTwoBits
  | truncatedChunkHeader
  | truncatedChunk
  | unsupportedDepth
  | noBitmapStarted
  deriving DecidableEq, Repr

def ImageFault.message : ImageFault → String
  | truncatedSingles => "truncated rle singles"
  | fileSize => "image file size does not match area"
  | noRunsForTwoBits => "rle not supported for 2 bpp"
  | truncatedChunkHeader => "truncated gzip chunk header"
  | truncatedChunk => "truncated gzip chunk"
  | unsupportedDepth => "unsupported bpp"
  | noBitmapStarted => "raw continuation without start"

/-- Why a drawing command is refused. -/
inductive DrawError
  | wire (e : WireError)
  /-- The first row and the height of an NBGL area are multiples of four. -/
  | misaligned (y0 height : UInt16)
  | outOfScreen
  | image (f : ImageFault)
  /-- Compressed data that is no gzip member. -/
  | gzip
  deriving DecidableEq, Repr

def DrawError.message : DrawError → String
  | wire e => "protocol decode error: " ++ e.message
  | misaligned y0 height =>
    "nbgl area misaligned (y0: " ++ toString y0.toNat ++ ", h: " ++ toString height.toNat ++ ")"
  | outOfScreen => "nbgl area out of screen"
  | image f => "invalid image: " ++ f.message
  | gzip => "gzip error: corrupt data"

end Seph
