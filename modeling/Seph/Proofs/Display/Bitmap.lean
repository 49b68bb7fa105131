import Mathlib.Algebra.Group.Nat.Defs
import Seph.Bagl.Drawing
import Seph.Nbgl.Picture
import Seph.Proofs.Display.Framebuffer

/-!
# Bitmaps

Glyphs, images of one bit to the pixel and raw bitmaps have the same layout: the pixels row by row, eight to
a byte from the lowest bit. So a bitmap tells its picture, and drawn characters can be looked up by their
bytes.

1. `length_packBits`, `testBit_packBits`: the bits of packed bits, and how many bytes they take.
2. `flatMap_lowValues`, `unpack_packBits`: unpacking gives the bits, and zeros up to the end of a byte.
3. `packPixels_inj_iff`: packed pixels tell the pixels.
4. `bitmap_tells_picture`: all of this for glyphs, pictures and raw bitmaps.
-/

namespace Seph

/-! ## Bits of a byte -/

/-- The number with the given bits, from the lowest. -/
def bitNumber (bits : List Bool) : Nat := bits.foldr (fun b n => b.toNat + 2 * n) 0

@[simp] theorem bitNumber_nil : bitNumber [] = 0 := rfl

@[simp] theorem bitNumber_cons (b : Bool) (bits : List Bool) :
    bitNumber (b :: bits) = b.toNat + 2 * bitNumber bits := rfl

theorem bitNumber_lt (bits : List Bool) : bitNumber bits < 2 ^ bits.length := by
  induction bits with
  | nil => simp
  | cons b bits ih =>
    rw [bitNumber_cons, List.length_cons, Nat.pow_succ]
    have := b.toNat_lt
    omega

theorem testBit_bitNumber (bits : List Bool) (i : Nat) :
    (bitNumber bits).testBit i = bits.getD i false := by
  induction bits generalizing i with
  | nil => simp
  | cons b bits ih =>
    rw [bitNumber_cons]
    cases i with
    | zero =>
      have hm : (b.toNat + 2 * bitNumber bits) % 2 = b.toNat := by
        have := b.toNat_lt
        omega
      rw [Nat.testBit_zero, List.getD_cons_zero, hm]
      cases b with
      | false => rfl
      | true => rfl
    | succ i =>
      have hd : (b.toNat + 2 * bitNumber bits) / 2 = bitNumber bits := by
        have := b.toNat_lt
        omega
      rw [Nat.testBit_succ, hd, ih, List.getD_cons_succ]

/-! ## Packed bits -/

theorem packBits_nil : packBits [] = [] := by
  rw [packBits]

theorem packBits_of_ne_nil {bits : List Bool} (h : bits ≠ []) :
    packBits bits = UInt8.ofNat (bitNumber (bits.take 8)) :: packBits (bits.drop 8) := by
  obtain ⟨b, bs, rfl⟩ := List.exists_cons_of_ne_nil h
  rw [packBits]
  rfl

theorem length_packBits (bits : List Bool) : (packBits bits).length = (bits.length + 7) / 8 := by
  induction hn : bits.length using Nat.strongRecOn generalizing bits with
  | ind n ih =>
    by_cases hb : bits = []
    · subst hb hn
      rw [packBits_nil]
      rfl
    · have hpos := List.length_pos_iff.2 hb
      have hd : (bits.drop 8).length = n - 8 := by rw [List.length_drop, hn]
      rw [packBits_of_ne_nil hb, List.length_cons, ih (n - 8) (by omega) _ hd]
      omega

theorem testBit_first (bits : List Bool) {i : Nat} (hi : i < 8) :
    (UInt8.ofNat (bitNumber (bits.take 8))).toNat.testBit i = bits.getD i false := by
  have hlt : bitNumber (bits.take 8) < 2 ^ 8 := by
    have h := bitNumber_lt (bits.take 8)
    have hl : (bits.take 8).length ≤ 8 := List.length_take_le 8 bits
    exact Nat.lt_of_lt_of_le h (Nat.pow_le_pow_right (by decide) hl)
  rw [UInt8.toNat_ofNat', Nat.mod_eq_of_lt hlt, testBit_bitNumber, List.getD_eq_getElem?_getD,
    List.getD_eq_getElem?_getD, List.getElem?_take_of_lt hi]

/-- **Bit `i` of packed bits** stands in byte `i / 8`, at place `i % 8`. -/
theorem testBit_packBits (bits : List Bool) (i : Nat) :
    ((packBits bits).getD (i / 8) 0).toNat.testBit (i % 8) = bits.getD i false := by
  induction i using Nat.strongRecOn generalizing bits with
  | ind i ih =>
    by_cases hb : bits = []
    · subst hb
      rw [packBits_nil]
      simp
    · rw [packBits_of_ne_nil hb]
      by_cases hi : i < 8
      · rw [Nat.div_eq_of_lt hi, Nat.mod_eq_of_lt hi, List.getD_cons_zero, testBit_first bits hi]
      · obtain ⟨j, rfl⟩ : ∃ j, i = j + 8 := ⟨i - 8, by omega⟩
        have hd : (j + 8) / 8 = j / 8 + 1 := by omega
        have hm : (j + 8) % 8 = j % 8 := by omega
        rw [hd, hm, List.getD_cons_succ, ih j (by omega), List.getD_eq_getElem?_getD,
          List.getD_eq_getElem?_getD, List.getElem?_drop, Nat.add_comm 8 j]

theorem packBits_inj_iff {bits bits' : List Bool} (hl : bits.length = bits'.length) :
    packBits bits = packBits bits' ↔ bits = bits' := by
  constructor
  · intro h
    apply List.ext_getElem hl
    intro i hi hi'
    have hb := testBit_packBits bits i
    rw [h, testBit_packBits bits' i] at hb
    rw [List.getD_eq_getElem?_getD, List.getD_eq_getElem?_getD, List.getElem?_eq_getElem hi,
      List.getElem?_eq_getElem hi'] at hb
    exact hb.symm
  · intro h
    rw [h]

/-! ## Unpacked bits -/

def bitValue (b : Bool) : UInt8 := if b then 1 else 0

theorem lowValues_one (b : UInt8) :
    lowValues 1 b = (List.range 8).map fun k => bitValue (b.toNat.testBit k) := by
  refine List.map_congr_left fun k _ => ?_
  show UInt8.ofNat (b.toNat >>> (k * 1) % 2 ^ 1) = _
  rw [Nat.mul_one, Nat.shiftRight_eq_div_pow, Nat.testBit_eq_decide_div_mod_eq]
  rcases Nat.mod_two_eq_zero_or_one (b.toNat / 2 ^ k) with h | h
  · simp [bitValue, h]
  · simp [bitValue, h]

/-- Unpacking gives the bits of the bytes, from the lowest of each. -/
theorem flatMap_lowValues (bs : Bytes) :
    bs.flatMap (lowValues 1) = (List.range (8 * bs.length)).map fun i =>
      bitValue ((bs.getD (i / 8) 0).toNat.testBit (i % 8)) := by
  rw [map_range_mul (fun k j => bitValue ((bs.getD j 0).toNat.testBit k)) 8 bs.length]
  have hbs : (List.range bs.length).map (bs.getD · 0) = bs := by
    rw [map_getD_range bs 0 (Nat.le_refl _), Nat.sub_self, List.replicate_zero, List.append_nil]
  calc bs.flatMap (lowValues 1)
      = ((List.range bs.length).map (bs.getD · 0)).flatMap (lowValues 1) := by rw [hbs]
    _ = (List.range bs.length).flatMap fun j => lowValues 1 (bs.getD j 0) := List.flatMap_map _ _ _
    _ = _ := by simp only [lowValues_one]

/-- **Packed bits are unpacked**, with zeros up to the end of the last byte. -/
theorem flatMap_lowValues_packBits (bits : List Bool) :
    (packBits bits).flatMap (lowValues 1) =
      bits.map bitValue ++ List.replicate (8 * ((bits.length + 7) / 8) - bits.length) 0 := by
  have hle : bits.length ≤ 8 * ((bits.length + 7) / 8) := by omega
  rw [flatMap_lowValues, length_packBits]
  simp only [testBit_packBits]
  calc (List.range (8 * ((bits.length + 7) / 8))).map (fun i => bitValue (bits.getD i false))
      = ((List.range (8 * ((bits.length + 7) / 8))).map (bits.getD · false)).map bitValue := by
        rw [List.map_map]
        rfl
    _ = _ := by
        rw [map_getD_range bits false hle, List.map_append, List.map_replicate]
        rfl

/-! ## Pixels -/

/-- The pixels of a rectangle, packed row by row. -/
def packPixels (w h : Nat) (lit : Nat → Nat → Bool) : Bytes :=
  packBits ((List.range (w * h)).map fun i => lit (i % w) (i / w))

theorem bitmap_ofFn (w h : Nat) (lit : Nat → Nat → Bool) :
    (Glyph.ofFn w h lit).bitmap = packPixels w h lit := rfl

theorem Nbgl.Picture.bitmap_eq (p : Nbgl.Picture) :
    p.bitmap = packPixels p.width p.height fun x y => p.value x y != 0 := rfl

section Pixels

variable {w h : Nat} {lit lit' : Nat → Nat → Bool}

theorem length_packPixels : (packPixels w h lit).length = (w * h + 7) / 8 := by
  rw [packPixels, length_packBits, List.length_map, List.length_range]

theorem testBit_packPixels (i : Nat) :
    ((packPixels w h lit).getD (i / 8) 0).toNat.testBit (i % 8) =
      (decide (i < w * h) && lit (i % w) (i / w)) := by
  rw [packPixels, testBit_packBits, List.getD_eq_getElem?_getD, List.getElem?_map]
  by_cases hi : i < w * h
  · rw [List.getElem?_range hi]
    simp [hi]
  · rw [List.getElem?_eq_none (by rw [List.length_range]; omega)]
    simp [hi]

/-- **Packed pixels tell the pixels.** -/
theorem packPixels_inj_iff :
    packPixels w h lit = packPixels w h lit' ↔ ∀ x y, x < w → y < h → lit x y = lit' x y := by
  unfold packPixels
  rw [packBits_inj_iff (by simp), List.map_inj_left]
  constructor
  · intro hi x y hx hy
    obtain ⟨hd, hm⟩ := Framebuffer.index_div_mod y hx
    have := hi (y * w + x) (List.mem_range.2 (Framebuffer.index_lt hx hy))
    rwa [hd, hm] at this
  · intro hp i hi
    have hi : i < w * h := List.mem_range.1 hi
    have hw : 0 < w := Nat.pos_of_mul_pos_right (Nat.zero_lt_of_lt hi)
    exact hp _ _ (Nat.mod_lt i hw) ((Nat.div_lt_iff_lt_mul hw).2 (Nat.mul_comm w h ▸ hi))

theorem bit_ofFn (x y : Nat) :
    (Glyph.ofFn w h lit).bit x y = (decide (x < w ∧ y < h) && lit x y) := by
  unfold Glyph.bit
  by_cases hin : x < w ∧ y < h
  · obtain ⟨hx, hy⟩ := hin
    obtain ⟨hd, hm⟩ := Framebuffer.index_div_mod y hx
    have hbit : ((packPixels w h lit).getD ((y * w + x) / 8) 0).toNat.testBit ((y * w + x) % 8) = lit x y := by
      rw [testBit_packPixels, hd, hm]
      simp [Framebuffer.index_lt hx hy]
    show (if x < w ∧ y < h then _ else false) = _
    rw [if_pos ⟨hx, hy⟩]
    refine hbit.trans ?_
    simp [hx, hy]
  · show (if x < w ∧ y < h then _ else false) = _
    rw [if_neg hin]
    simp [hin]

theorem unpack_packPixels :
    Bagl.unpack 1 (packPixels w h lit) =
      ((List.range h).flatMap fun y => (List.range w).map fun x => bitValue (lit x y)) ++
        List.replicate (8 * ((w * h + 7) / 8) - w * h) 0 := by
  have hu := flatMap_lowValues_packBits ((List.range (w * h)).map fun i => lit (i % w) (i / w))
  rw [List.map_map, List.length_map, List.length_range] at hu
  rw [← map_range_mul (fun x y => bitValue (lit x y)) w h]
  exact hu

theorem bne_zero_eq_iff {v : UInt8} {b : Bool} : (v != 0) = b ↔ (v ≠ 0 ↔ b = true) := by
  cases b with
  | false => simp
  | true => simp

end Pixels

/-- **A bitmap tells its picture.** Take any width and height and any pixels. The bitmap of the glyph has as
many bytes as the pixels fill, the last one perhaps in part, and its bit `i` is the pixel in column `i % w`
and row `i / w`; behind the last pixel the bits are zero. The glyph reads the pixels back, and none outside
its rectangle. Unpacked as a raw bitmap of one bit to the pixel it gives the pixels row by row, and zeros
behind them. A picture of the same size has the same bitmap exactly if its values are not zero just where
the pixels are lit. So two glyphs of one size, and two pictures of one size, have the same bitmap exactly if
they show the same. -/
theorem bitmap_tells_picture (w h : Nat) (lit : Nat → Nat → Bool) :
    let glyph := Glyph.ofFn w h lit
    (glyph.bitmap.length = (w * h + 7) / 8 ∧
      ∀ i, (glyph.bitmap.getD (i / 8) 0).toNat.testBit (i % 8) =
        (decide (i < w * h) && lit (i % w) (i / w))) ∧
    (∀ x y, glyph.bit x y = (decide (x < w ∧ y < h) && lit x y)) ∧
    Bagl.unpack 1 glyph.bitmap =
      ((List.range h).flatMap fun y => (List.range w).map fun x => if lit x y then 1 else 0) ++
        List.replicate (8 * ((w * h + 7) / 8) - w * h) 0 ∧
    (∀ p : Nbgl.Picture, p.width = w → p.height = h →
      (p.bitmap = glyph.bitmap ↔ ∀ x y, x < w → y < h → (p.value x y ≠ 0 ↔ lit x y = true))) ∧
    (∀ lit', (Glyph.ofFn w h lit').bitmap = glyph.bitmap ↔
      ∀ x y, x < w → y < h → lit' x y = lit x y) ∧
    ∀ p q : Nbgl.Picture, p.width = w → p.height = h → q.width = w → q.height = h →
      (p.bitmap = q.bitmap ↔ ∀ x y, x < w → y < h → (p.value x y = 0 ↔ q.value x y = 0)) := by
  refine ⟨⟨length_packPixels, testBit_packPixels⟩, bit_ofFn, unpack_packPixels, ?_, ?_, ?_⟩
  · intro p hw hh
    rw [p.bitmap_eq, hw, hh, bitmap_ofFn, packPixels_inj_iff]
    simp only [bne_zero_eq_iff]
  · intro lit'
    exact packPixels_inj_iff
  · intro p q hpw hph hqw hqh
    rw [p.bitmap_eq, q.bitmap_eq, hpw, hph, hqw, hqh, packPixels_inj_iff]
    simp only [bne_zero_eq_iff, bne_iff_ne, Decidable.not_iff_not]

/-- Five columns of two rows with two pixels lit, which leave six bits of the second byte. The picture lists
its values by columns from the right. -/
theorem bitmap_tells_picture_of_five_by_two :
    let lit : Nat → Nat → Bool := fun x y => x == y
    let p : Nbgl.Picture := ⟨5, 2, .plain, #[0, 0, 0, 0, 0, 0, 0, 9, 3, 0]⟩
    (p.width = 5 ∧ p.height = 2) ∧
      (∀ x y, x < 5 → y < 2 → (p.value x y ≠ 0 ↔ lit x y = true)) ∧
      p.bitmap = (Glyph.ofFn 5 2 lit).bitmap ∧ (Glyph.ofFn 5 2 lit).bitmap = [0x41, 0] := by
  intro lit p
  have hv : ∀ x y, x < 5 → y < 2 → (p.value x y ≠ 0 ↔ lit x y = true) := by
    have hall : ∀ x < 5, ∀ y < 2, (p.value x y ≠ 0 ↔ lit x y = true) := by decide
    intro x y hx hy
    exact hall x hx y hy
  obtain ⟨-, -, -, same, -⟩ := bitmap_tells_picture 5 2 lit
  exact ⟨⟨rfl, rfl⟩, hv, (same p rfl rfl).2 hv, by decide +kernel⟩

end Seph
