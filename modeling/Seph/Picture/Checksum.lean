import Seph.Bytes

/-!
# CRC-32

The cyclic redundancy check of gzip members and of PNG chunks: the remainder of the message modulo
a fixed polynomial, lowest bits first.
-/

namespace Seph.Crc32

/-- The polynomial, lowest coefficient in the highest bit. -/
def polynomial : UInt32 := 0xEDB88320

/-- The remainder after one more zero bit. -/
def shift (r : UInt32) : UInt32 :=
  if r &&& 1 = 1 then (r >>> 1) ^^^ polynomial else r >>> 1

/-- The remainder after one more byte. -/
def step (r : UInt32) (b : UInt8) : UInt32 :=
  let r := r ^^^ b.toUInt32
  shift (shift (shift (shift (shift (shift (shift (shift r)))))))

def init : UInt32 := 0xFFFFFFFF

def ofBytes (bs : Bytes) : UInt32 := bs.foldl step init ^^^ 0xFFFFFFFF

/-- The check value of a message in an array. -/
def ofArray (bs : Array UInt8) : UInt32 := bs.foldl step init ^^^ 0xFFFFFFFF

end Seph.Crc32
