import Seph.Nbgl.Payload
import Seph.Proofs.Wire

/-!
# NBGL payloads

What is written as a payload is read back from it, and areas and image files are read from nothing else.

1. `Area.exact_decode`, `stampOf?_stampBytes`: areas, whatever follows them, and stamps.
2. `Image.decode_encode`: images that have as many bytes of pixels as their area takes.
3. `RunImage.decode_encode`: images in run-length code whose size fits in four bytes.
4. `File.exact_decode`, `FileImage.decode_encode`: image files, whatever their data.
-/

namespace Seph

namespace Nbgl

theorem Depth.ofCode?_eq_some_iff {b : UInt8} {d : Depth} : ofCode? b = some d ↔ d.code = b :=
  Wire.find?_code_eq_some_iff (fun d => by cases d <;> decide)
    fun a b => by cases a <;> cases b <;> decide

theorem Depth.ofCode?_code (d : Depth) : ofCode? d.code = some d := ofCode?_eq_some_iff.2 rfl

theorem Order.ofCode?_eq_some_iff {b : UInt8} {o : Order} : ofCode? b = some o ↔ o.code = b :=
  Wire.find?_code_eq_some_iff (fun o => by cases o <;> decide)
    fun a b => by cases a <;> cases b <;> decide

theorem Order.ofCode?_code (o : Order) : ofCode? o.code = some o := ofCode?_eq_some_iff.2 rfl

/-! ## Areas -/

theorem Area.decode_encode (a : Area) (rest : Bytes) : decode (a.encode ++ rest) = .ok (a, rest) := by
  obtain ⟨x₁, x₂, hx, hx'⟩ := Word.exists_le16 a.x0
  obtain ⟨y₁, y₂, hy, hy'⟩ := Word.exists_le16 a.y0
  obtain ⟨w₁, w₂, hw, hw'⟩ := Word.exists_le16 a.width
  obtain ⟨h₁, h₂, hh, hh'⟩ := Word.exists_le16 a.height
  rw [encode, hx, hy, hw, hh]
  show decode (x₁ :: x₂ :: y₁ :: y₂ :: w₁ :: w₂ :: h₁ :: h₂ :: a.color :: a.depth.code :: rest) = _
  rw [decode, Depth.ofCode?_code, hx', hy', hw', hh']

/-- **An area is read exactly where its bytes stand.** -/
theorem Area.exact_decode : Wire.Exact decode fun a enc => a.encode = enc := by
  intro bs a rest
  constructor
  · intro h
    refine ⟨a.encode, rfl, ?_⟩
    unfold decode at h
    split at h
    · split at h
      · rename_i depth hd
        cases h
        simp only [encode, Word.le16_ofLE16, Depth.ofCode?_eq_some_iff.1 hd, List.cons_append,
          List.nil_append]
      · cases h
    · cases h
  · rintro ⟨_, rfl, rfl⟩
    exact decode_encode a rest

/-! ## Stamps -/

theorem charOf?_toNat (c : Char) : charOf? c.toNat = some c := by
  have hv : c.toNat.isValidChar := c.valid
  unfold charOf?
  rw [dif_pos hv]
  rfl

theorem stampOf?_stampBytes (s : Option Char) : stampOf? (stampBytes s) = s := by
  cases s with
  | none => rfl
  | some c =>
    show charOf? (Word.ofLE (Word.toLE 4 c.toNat)) = some c
    rw [Word.ofLE_toLE_of_lt c.val.toNat_lt, charOf?_toNat]

/-! ## Images -/

theorem Image.decode_encode {i : Image} (h : i.pixels.length = i.area.depth.packedSize i.area.pixels) :
    decode i.encode = .ok i := by
  have hb : i.encode =
      i.area.encode ++ i.order.code :: i.colorMap :: (i.pixels ++ stampBytes i.stamp) := by
    rw [encode, List.append_assoc]
    rfl
  unfold decode
  rw [hb, Area.decode_encode]
  simp only [bind, Except.bind, Order.ofCode?_code]
  rw [← h, List.take_left, List.drop_left, stampOf?_stampBytes]
  rfl

theorem RunImage.decode_encode {i : RunImage} (h : i.data.length < 256 ^ 4) :
    decode i.encode = .ok i := by
  obtain ⟨a, b, c, d, hs, hn⟩ : ∃ a b c d, Word.toLE 4 i.data.length = [a, b, c, d] ∧
      Word.ofLE [a, b, c, d] = i.data.length := ⟨_, _, _, _, rfl, Word.ofLE_toLE_of_lt h⟩
  have hb : i.encode =
      i.area.encode ++ a :: b :: c :: d :: (i.data ++ i.colorMap :: stampBytes i.stamp) := by
    rw [encode, hs, List.append_assoc, List.append_assoc]
    rfl
  unfold decode
  rw [hb, Area.decode_encode]
  simp only [bind, Except.bind, hn]
  rw [List.take_left, List.drop_left]
  dsimp only
  rw [stampOf?_stampBytes]
  rfl

/-! ## Image files -/

theorem toNat_kind (d : Depth) (c : Compression) :
    (UInt8.ofNat (d.bits * 16 + c.code.toNat)).toNat / 16 = d.bits ∧
      UInt8.ofNat (d.bits * 16 + c.code.toNat) &&& 0x0F = c.code := by
  cases d <;> cases c <;> decide

theorem Depth.ofBits?_eq_some_iff {n : Nat} {d : Depth} : ofBits? n = some d ↔ d.bits = n :=
  Wire.find?_code_eq_some_iff (fun d => by cases d <;> decide)
    fun a b => by cases a <;> cases b <;> decide

theorem Depth.ofBits?_bits (d : Depth) : ofBits? d.bits = some d := ofBits?_eq_some_iff.2 rfl

theorem Compression.ofCode?_eq_some_iff {b : UInt8} {c : Compression} :
    ofCode? b = some c ↔ c.code = b :=
  Wire.find?_code_eq_some_iff (fun c => by cases c <;> decide)
    fun a b => by cases a <;> cases b <;> decide

theorem Compression.ofCode?_code (c : Compression) : ofCode? c.code = some c :=
  ofCode?_eq_some_iff.2 rfl

/-- Depth and compression are all that the byte of both says. -/
theorem kind_of_decoded {kind : UInt8} {d : Depth} {c : Compression}
    (hd : Depth.ofBits? (kind.toNat / 16) = some d) (hc : Compression.ofCode? (kind &&& 0x0F) = some c) :
    UInt8.ofNat (d.bits * 16 + c.code.toNat) = kind := by
  have hlow : (kind &&& 0x0F).toNat = kind.toNat % 16 := by
    rw [UInt8.toNat_and]
    exact Nat.and_two_pow_sub_one_eq_mod kind.toNat 4
  rw [Depth.ofBits?_eq_some_iff.1 hd, Compression.ofCode?_eq_some_iff.1 hc, hlow,
    Nat.div_add_mod' kind.toNat 16, UInt8.ofNat_toNat]

theorem File.decode_encode {f : File} {enc : Bytes} (h : f.encode = .ok enc) (rest : Bytes) :
    decode (enc ++ rest) = .ok (f, rest) := by
  unfold encode at h
  split at h
  · cases h
  · rename_i hl
    cases h
    obtain ⟨w₁, w₂, hw, hw'⟩ := Word.exists_le16 f.width
    obtain ⟨h₁, h₂, hh, hh'⟩ := Word.exists_le16 f.height
    obtain ⟨hd, hc⟩ := toNat_kind f.depth f.compression
    have hsize : f.data.length < 256 ^ 3 := by
      unfold maxData at hl
      omega
    obtain ⟨s₁, s₂, s₃, hs, hn⟩ : ∃ a b c, Word.toLE 3 f.data.length = [a, b, c] ∧
        Word.ofLE [a, b, c] = f.data.length :=
      ⟨_, _, _, rfl, Word.ofLE_toLE_of_lt (k := 3) hsize⟩
    rw [hw, hh, hs]
    generalize UInt8.ofNat (f.depth.bits * 16 + f.compression.code.toNat) = kind at hd hc
    show decode (w₁ :: w₂ :: h₁ :: h₂ :: kind :: s₁ :: s₂ :: s₃ :: (f.data ++ rest)) = _
    have hfit : ¬ (f.data ++ rest).length < f.data.length := by
      rw [List.length_append]
      omega
    rw [decode, hd, hc, Depth.ofBits?_bits, Compression.ofCode?_code, hn, hw', hh']
    dsimp only
    rw [if_neg hfit, List.take_left, List.drop_left]

theorem File.exists_encode_iff {f : File} : (∃ enc, f.encode = .ok enc) ↔ f.data.length ≤ maxData := by
  unfold encode
  split
  · rename_i h
    exact iff_of_false nofun (Nat.not_le_of_lt h)
  · rename_i h
    exact iff_of_true ⟨_, rfl⟩ (Nat.le_of_not_lt h)

/-- **An image file is read exactly where its bytes stand.** -/
theorem File.exact_decode : Wire.Exact decode fun f enc => f.encode = .ok enc := by
  intro bs f rest
  constructor
  · intro h
    unfold decode at h
    split at h
    · rename_i w₁ w₂ h₁ h₂ kind s₁ s₂ s₃ left
      split at h
      · rename_i depth compression hd hc
        dsimp only at h
        split at h
        · cases h
        · rename_i hfit
          cases h
          have hsize : (left.take (Word.ofLE [s₁, s₂, s₃])).length = Word.ofLE [s₁, s₂, s₃] := by
            rw [List.length_take]
            omega
          have hmax : Word.ofLE [s₁, s₂, s₃] < 256 ^ 3 := Word.ofLE_lt [s₁, s₂, s₃]
          have hs : Word.toLE 3 (Word.ofLE [s₁, s₂, s₃]) = [s₁, s₂, s₃] := Word.toLE_ofLE [s₁, s₂, s₃]
          refine ⟨_, if_neg ?_, ?_⟩
          · simp only [hsize, maxData]
            omega
          · simp only [hsize, hs, Word.le16_ofLE16, kind_of_decoded hd hc, List.cons_append,
              List.nil_append, List.take_append_drop]
      · cases h
    · cases h
  · rintro ⟨enc, he, rfl⟩
    exact decode_encode he rest

/-- The bytes of an image file that is drawn in an area. -/
def FileImage.encode (i : FileImage) : Except WireError Bytes :=
  i.file.encode.map fun file => i.area.encode ++ file ++ stampBytes i.stamp

theorem FileImage.decode_encode {i : FileImage} {enc : Bytes} (h : i.encode = .ok enc) :
    decode enc = .ok i := by
  unfold encode at h
  cases hf : i.file.encode with
  | error e =>
    rw [hf] at h
    cases h
  | ok file =>
    rw [hf] at h
    cases h
    unfold decode
    dsimp only
    rw [List.append_assoc, Area.decode_encode]
    simp only [bind, Except.bind]
    rw [File.decode_encode hf]
    dsimp only
    rw [stampOf?_stampBytes]
    rfl

end Nbgl
end Seph
