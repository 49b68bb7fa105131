import Seph.Bytes

/-!
# Packed pixels

Pixel values of one to eight bits in bytes: bits packed from the lowest bit, and the values of a
byte read from its highest or from its lowest bits.
-/

namespace Seph

/-- The bits packed eight to a byte, from the lowest bit; the last byte is filled up with zeros. -/
def packBits (bits : List Bool) : Bytes :=
  match bits with
  | [] => []
  | b :: bs =>
    let bits := b :: bs
    UInt8.ofNat ((bits.take 8).foldr (fun b n => b.toNat + 2 * n) 0) :: packBits (bits.drop 8)
termination_by bits.length
decreasing_by simp only [List.length_drop, List.length_cons]; omega

/-- The values of a byte of `depth` bits each, from the highest bits on. -/
def highValues (depth : Nat) (b : UInt8) : Bytes :=
  (List.range (8 / depth)).map fun k =>
    UInt8.ofNat (b.toNat >>> (8 - depth * (k + 1)) % Nat.pow 2 depth)

/-- The values of a byte of `depth` bits each, from the lowest bits on. -/
def lowValues (depth : Nat) (b : UInt8) : Bytes :=
  (List.range (8 / depth)).map fun k => UInt8.ofNat (b.toNat >>> (k * depth) % Nat.pow 2 depth)

end Seph
