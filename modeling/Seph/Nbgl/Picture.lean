import Seph.Nbgl.Payload
import Seph.Picture.RunLength
import Seph.Picture.Gzip
import Seph.Display.Packing

/-!
# Pictures

A picture is a list of pixel values together with the order in which the list goes through the
rectangle. `Order.position` says where the `i`-th value stands and `Order.index` which value stands
at a point; the two are inverse to each other.
-/

namespace Seph

namespace Nbgl

/-! ## Orders -/

namespace Order

/-- The column and row of the `i`-th value in a rectangle of `w` columns and `h` rows. -/
def position (o : Order) (w h i : Nat) : Option (Nat × Nat) :=
  if w * h ≤ i then none
  else some <| match o with
    | plain => (w - 1 - i / h, i % h)
    | flipHorizontal => (i / h, i % h)
    | flipVertical => (w - 1 - i / h, h - 1 - i % h)
    | flipBoth => (i / h, h - 1 - i % h)
    | rows => (i % w, i / w)

/-- The place in the list of the value in column `x` and row `y`. -/
def index (o : Order) (w h x y : Nat) : Nat :=
  match o with
  | plain => (w - 1 - x) * h + y
  | flipHorizontal => x * h + y
  | flipVertical => (w - 1 - x) * h + (h - 1 - y)
  | flipBoth => x * h + (h - 1 - y)
  | rows => y * w + x

end Order

/-- Pixel values in some order of a rectangle. -/
structure Picture where
  width : Nat
  height : Nat
  order : Order
  values : Array UInt8

namespace Picture

/-- The value in column `x` and row `y`; a missing value is zero. -/
def value (p : Picture) (x y : Nat) : UInt8 :=
  p.values.getD (p.order.index p.width p.height x y) 0

/-- The picture packed like a glyph, every value that is not zero as a lit pixel. -/
def bitmap (p : Picture) : Bytes :=
  packBits ((List.range (p.width * p.height)).map fun i =>
    p.value (i % p.width) (i / p.width) != 0)

end Picture

def unpack (depth : Depth) (bs : Bytes) : Bytes := bs.flatMap (highValues depth.bits)

/-- The values of pixels in run-length code. There is no such code for two bits to the pixel. -/
def unpackRuns (depth : Depth) (bs : Bytes) : Except DrawError Bytes :=
  match depth with
  | .one => .ok (RunLength.decode1 bs)
  | .two => .error (.image .noRunsForTwoBits)
  | .four => RunLength.decode4 bs

/-- The values of an image file. -/
def File.values (f : File) : Except DrawError Bytes :=
  match f.compression with
  | .none => .ok (unpack f.depth f.data)
  | .gzip => (Gzip.expandChunks f.data).map (unpack f.depth)
  | .runs => unpackRuns f.depth f.data

end Nbgl
end Seph
