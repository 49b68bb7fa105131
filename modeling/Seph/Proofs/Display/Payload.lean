import Seph.Proofs.Bagl.Payload
import Seph.Proofs.Nbgl.Payload

/-!
# The payloads of drawing commands

What the two graphics libraries write as a payload is read back from it, and what is read is written again
as the bytes that it was read from: `Display.payloads_read_back`. Images may leave bytes unread at their
end, so for them the way back is not asked for.
-/

namespace Seph.Display

open Nbgl (Area Image File RunImage)
open Bagl (Component RawStatus unmarked)

/-- **The payloads of drawing commands are read back.** An area, a component and an image file of at most
`0xFFFFFF` bytes of data are read from their bytes, whatever follows them, and take all of these; so are,
as the whole of their bytes, an image that has the pixels of its area, an image in run-length code of less
than `2 ^ 32` bytes of data, and a piece of a raw bitmap, of which a first one has one colour for each pixel
value. And what is read as an area, an image file or a component is written as the bytes that were taken,
up to the mark of a component that can be touched, and what is read as a piece of a raw bitmap as all of the
bytes. -/
theorem payloads_read_back :
    (∀ (a : Area) rest, Wire.counted Area.decode (a.encode ++ rest) = .ok (a, a.encode.length)) ∧
    (∀ (c : Component) rest, Wire.counted Component.decode (c.encode ++ rest) = .ok (c, c.encode.length)) ∧
    (∀ f : File, f.data.length ≤ 0xFFFFFF → ∃ enc, f.encode = .ok enc ∧
      ∀ rest, Wire.counted File.decode (enc ++ rest) = .ok (f, enc.length)) ∧
    (∀ i : Image, i.pixels.length = i.area.depth.packedSize i.area.pixels →
      Wire.whole Image.decode i.encode = .ok (i, i.encode.length)) ∧
    (∀ i : RunImage, i.data.length < 2 ^ 32 →
      Wire.whole RunImage.decode i.encode = .ok (i, i.encode.length)) ∧
    (∀ s : RawStatus, s.Colored → Wire.whole RawStatus.decode s.encode = .ok (s, s.encode.length)) ∧
    (∀ bs (a : Area) n, Wire.counted Area.decode bs = .ok (a, n) ↔
      n ≤ bs.length ∧ a.encode = bs.take n) ∧
    (∀ bs (c : Component) n, Wire.counted Component.decode bs = .ok (c, n) ↔
      n ≤ bs.length ∧ c.encode = unmarked (bs.take n)) ∧
    (∀ bs (f : File) n, Wire.counted File.decode bs = .ok (f, n) ↔
      n ≤ bs.length ∧ f.encode = .ok (bs.take n)) ∧
    (∀ bs (s : RawStatus) n, Wire.whole RawStatus.decode bs = .ok (s, n) ↔
      n = bs.length ∧ s.encode = bs ∧ s.Colored) := by
  refine ⟨fun a => Area.exact_decode.counted_append rfl,
    fun c => Component.exact_decode.counted_append c.unmarked_encode.symm, fun f hf => ?_,
    fun i hi => Wire.whole_eq_ok_iff.2 ⟨rfl, Image.decode_encode hi⟩,
    fun i hi => Wire.whole_eq_ok_iff.2 ⟨rfl, RunImage.decode_encode hi⟩,
    fun s hs => Wire.whole_eq_ok_iff.2 ⟨rfl, RawStatus.decode_eq_ok_iff.2 ⟨rfl, hs⟩⟩,
    fun bs a n => Area.exact_decode.counted_eq_ok_iff,
    fun bs c n => Component.exact_decode.counted_eq_ok_iff,
    fun bs f n => File.exact_decode.counted_eq_ok_iff, fun bs s n => ?_⟩
  · obtain ⟨enc, he⟩ := File.exists_encode_iff.2 hf
    exact ⟨enc, he, File.exact_decode.counted_append he⟩
  · rw [Wire.whole_eq_ok_iff, RawStatus.decode_eq_ok_iff]

/-- A stamped image of 32 pixels of one bit, one in run-length code, an image file, and the first piece of
a bitmap of two colours. -/
theorem stamped_images_read_back :
    let area : Area := ⟨10, 20, 8, 4, 3, .one⟩
    let image : Image := ⟨area, .plain, 0, [0xF0, 0x0F, 0xF0, 0x0F], some 'é'⟩
    let runs : RunImage := ⟨area, [0x3C, 0x11], 2, some 'é'⟩
    let file : File := ⟨2, 4, .four, .runs, [0xC7]⟩
    let piece : RawStatus := .start ⟨-2, 3, 8, 1, 1, [0, 0xFFFFFF]⟩ [0xA5]
    (image.pixels.length = area.depth.packedSize area.pixels ∧
      Wire.whole Image.decode image.encode = .ok (image, image.encode.length)) ∧
    (runs.data.length < 2 ^ 32 ∧ Wire.whole RunImage.decode runs.encode = .ok (runs, runs.encode.length)) ∧
    (file.data.length ≤ 0xFFFFFF ∧ ∃ enc, file.encode = .ok enc ∧
      ∀ rest, Wire.counted File.decode (enc ++ rest) = .ok (file, enc.length)) ∧
    piece.Colored ∧ Wire.whole RawStatus.decode piece.encode = .ok (piece, piece.encode.length) := by
  intro area image runs file piece
  have hi : image.pixels.length = area.depth.packedSize area.pixels := by decide
  have hr : runs.data.length < 2 ^ 32 := by decide
  have hf : file.data.length ≤ 0xFFFFFF := by decide
  have hp : piece.Colored := ⟨by decide, by decide⟩
  obtain ⟨-, -, files, images, runImages, pieces, -⟩ := payloads_read_back
  exact ⟨⟨hi, images image hi⟩, ⟨hr, runImages runs hr⟩, ⟨hf, files file hf⟩, hp, pieces piece hp⟩

end Seph.Display
