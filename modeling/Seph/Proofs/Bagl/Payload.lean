import Seph.Bagl.Payload
import Seph.Proofs.Wire

/-!
# BAGL payloads

What is written as a payload is read back from it, and read from nothing else.

1. `Component.exact_decode`: components, whatever context follows them; the mark of those that can be
   touched does not matter.
2. `RawStatus.decode_eq_ok_iff`: pieces of a raw bitmap, if a first piece has one colour for each pixel
   value.
-/

namespace Seph.Bagl

/-! ## Components -/

theorem Kind.ofCode?_code (k : Kind) : ofCode? (k.code &&& 0x7F) = some k := by
  cases k <;> rfl

theorem Kind.ofCode?_eq_some_iff {b : UInt8} {k : Kind} : ofCode? b = some k ↔ k.code = b :=
  Wire.find?_code_eq_some_iff (fun k => by cases k <;> decide)
    fun a b => by cases a <;> cases b <;> decide

theorem Component.decode_encode (c : Component) (ctx : Bytes) :
    decode (c.encode ++ ctx) = .ok (c, ctx) := by
  obtain ⟨x₁, x₂, hx, hx'⟩ := Word.exists_le16 c.x.toUInt16
  obtain ⟨y₁, y₂, hy, hy'⟩ := Word.exists_le16 c.y.toUInt16
  obtain ⟨w₁, w₂, hw, hw'⟩ := Word.exists_le16 c.width
  obtain ⟨h₁, h₂, hh, hh'⟩ := Word.exists_le16 c.height
  obtain ⟨f₁, f₂, f₃, f₄, hf, hf'⟩ := Word.exists_le32 c.fgColor
  obtain ⟨b₁, b₂, b₃, b₄, hb, hb'⟩ := Word.exists_le32 c.bgColor
  obtain ⟨t₁, t₂, ht, ht'⟩ := Word.exists_le16 c.fontId
  have he : c.encode ++ ctx = c.kind.code :: c.userId :: x₁ :: x₂ :: y₁ :: y₂ :: w₁ :: w₂ :: h₁ :: h₂ ::
      c.stroke :: c.radius :: c.fill :: f₁ :: f₂ :: f₃ :: f₄ :: b₁ :: b₂ :: b₃ :: b₄ :: t₁ :: t₂ ::
      c.iconId :: ctx := by
    simp only [encode, hx, hy, hw, hh, hf, hb, ht, List.cons_append, List.nil_append]
  rw [he, decode, Kind.ofCode?_code, hx', hy', hw', hh', hf', hb', ht']
  rfl

/-- The bytes without the mark of a component that can be touched. -/
def unmarked (bs : Bytes) : Bytes := bs.modifyHead (· &&& 0x7F)

theorem Component.unmarked_encode (c : Component) : unmarked c.encode = c.encode := by
  have hk : c.kind.code &&& 0x7F = c.kind.code := by cases c.kind <;> rfl
  show (c.kind.code &&& 0x7F) :: _ = _
  rw [hk]
  rfl

theorem Component.decode_unmarked (bs : Bytes) : decode (unmarked bs) = decode bs := by
  match bs with
  | [] => rfl
  | b :: bs =>
    have hb : b &&& 0x7F &&& 0x7F = b &&& 0x7F := by
      rw [UInt8.and_assoc]
      rfl
    show decode ((b &&& 0x7F) :: bs) = decode (b :: bs)
    unfold decode
    split
    · rename_i heq
      cases heq
      dsimp only
      rw [hb]
    · rename_i hshort
      split
      · rename_i heq
        cases heq
        exact absurd rfl (hshort _ _ _ _ _ _ _ _ _ _ _ _ _ _ _ _ _ _ _ _ _ _ _ _ _)
      · rfl

/-- **A component is read exactly where its bytes stand**, with the mark or without. -/
theorem Component.exact_decode : Wire.Exact decode fun c enc => c.encode = unmarked enc := by
  intro bs c ctx
  constructor
  · intro h
    unfold decode at h
    split at h
    · rename_i kind userId x₁ x₂ y₁ y₂ w₁ w₂ h₁ h₂ stroke radius fill f₁ f₂ f₃ f₄ b₁ b₂ b₃ b₄ t₁ t₂ iconId _
      split at h
      · rename_i k hk
        cases h
        refine ⟨[kind, userId, x₁, x₂, y₁, y₂, w₁, w₂, h₁, h₂, stroke, radius, fill, f₁, f₂, f₃, f₄,
          b₁, b₂, b₃, b₄, t₁, t₂, iconId], ?_, rfl⟩
        simp only [encode, UInt16.toUInt16_toInt16, Word.le16_ofLE16, Word.le32_ofLE32,
          Kind.ofCode?_eq_some_iff.1 hk, List.cons_append, List.nil_append]
        rfl
      · cases h
    · cases h
  · rintro ⟨enc, he, rfl⟩
    have hne : enc ≠ [] := by
      rintro rfl
      cases he
    have happ : unmarked (enc ++ ctx) = unmarked enc ++ ctx := by
      obtain ⟨b, bs, rfl⟩ := List.exists_cons_of_ne_nil hne
      rfl
    rw [← decode_unmarked, happ, ← he, decode_encode]

/-! ## Raw bitmaps -/

theorem takeColors_flatMap (colors : List UInt32) (rest : Bytes) :
    takeColors Word.ofBE32 colors.length (colors.flatMap Word.be32 ++ rest) = some (colors, rest) := by
  induction colors with
  | nil => rfl
  | cons c colors ih =>
    obtain ⟨a, b, d, e, hc, hc'⟩ := Word.exists_be32 c
    rw [List.flatMap_cons, hc, List.append_assoc]
    show takeColors Word.ofBE32 (colors.length + 1)
      (a :: b :: d :: e :: (colors.flatMap Word.be32 ++ rest)) = _
    rw [takeColors, ih, Option.map_some, hc']

/-- What is read as colours are as many as were asked for, and then what follows them. -/
theorem eq_of_takeColors {n : Nat} {bs rest : Bytes} {colors : List UInt32}
    (h : takeColors Word.ofBE32 n bs = some (colors, rest)) :
    colors.length = n ∧ bs = colors.flatMap Word.be32 ++ rest := by
  induction n generalizing bs colors with
  | zero =>
    cases h
    exact ⟨rfl, rfl⟩
  | succ n ih =>
    match bs with
    | [] | [_] | [_, _] | [_, _, _] => cases h
    | a :: b :: c :: d :: left =>
      obtain ⟨⟨others, after⟩, ht, he⟩ := Option.map_eq_some_iff.1 h
      cases he
      obtain ⟨hl, rfl⟩ := ih ht
      refine ⟨congrArg (· + 1) hl, ?_⟩
      rw [List.flatMap_cons, Word.be32_ofBE32]
      rfl

/-- A header has one colour for each pixel value. -/
def BitmapHeader.Colored (h : BitmapHeader) : Prop :=
  h.depth ≤ 8 ∧ h.colors.length = 2 ^ h.depth.toNat

instance (h : BitmapHeader) : Decidable h.Colored := inferInstanceAs (Decidable (_ ∧ _))

theorem BitmapHeader.Colored.colorTable_eq {h : BitmapHeader} (hc : h.Colored) (rest : Bytes) :
    colorTable Word.ofBE32 h.depth (h.colors.flatMap Word.be32 ++ rest) = .ok (h.colors, rest) := by
  unfold colorTable
  rw [if_neg (UInt8.not_lt.2 hc.1), Nat.pow_eq, ← hc.2, takeColors_flatMap]

theorem eq_of_colorTable {depth : UInt8} {bs rest : Bytes} {colors : List UInt32}
    (h : colorTable Word.ofBE32 depth bs = .ok (colors, rest)) :
    depth ≤ 8 ∧ colors.length = 2 ^ depth.toNat ∧ bs = colors.flatMap Word.be32 ++ rest := by
  unfold colorTable at h
  split at h
  · cases h
  · rename_i hd
    split at h
    · rename_i r ht
      cases h
      exact ⟨UInt8.not_lt.1 hd, eq_of_takeColors ht⟩
    · cases h

namespace RawStatus

theorem decode_start {h : BitmapHeader} (hc : h.Colored) (bitmap : Bytes) :
    decode (start h bitmap).encode = .ok (start h bitmap) := by
  obtain ⟨x₁, x₂, hx, hx'⟩ := Word.exists_be16 h.x.toUInt16
  obtain ⟨y₁, y₂, hy, hy'⟩ := Word.exists_be16 h.y.toUInt16
  obtain ⟨w₁, w₂, hw, hw'⟩ := Word.exists_be16 h.width
  obtain ⟨h₁, h₂, hh, hh'⟩ := Word.exists_be16 h.height
  have he : (start h bitmap).encode =
      0 :: x₁ :: x₂ :: y₁ :: y₂ :: w₁ :: w₂ :: h₁ :: h₂ :: h.depth ::
        (h.colors.flatMap Word.be32 ++ bitmap) := by
    simp only [encode, hx, hy, hw, hh, List.cons_append, List.nil_append]
  rw [he, decode, if_pos rfl]
  dsimp only
  rw [hc.colorTable_eq bitmap, hx', hy', hw', hh']
  rfl

theorem decode_more (bitmap : Bytes) : decode (more bitmap).encode = .ok (more bitmap) := rfl

/-- A first piece has one colour for each pixel value. -/
def Colored : RawStatus → Prop
  | start h _ => h.Colored
  | more _ => True

/-- **A piece of a raw bitmap is read exactly from its bytes**, and a first piece that is read has one
colour for each pixel value. -/
theorem decode_eq_ok_iff {bs : Bytes} {s : RawStatus} : decode bs = .ok s ↔ s.encode = bs ∧ s.Colored := by
  constructor
  · intro h
    unfold decode at h
    split at h
    · cases h
    · rename_i b rest
      split at h
      · rename_i hb
        split at h
        · rename_i x₁ x₂ y₁ y₂ w₁ w₂ h₁ h₂ depth left
          obtain ⟨⟨colors, bitmap⟩, hc, he⟩ := exists_ok_of_bind h
          cases he
          obtain ⟨hd, hl, rfl⟩ := eq_of_colorTable hc
          refine ⟨?_, hd, hl⟩
          simp only [encode, hb, UInt16.toUInt16_toInt16, Word.be16_ofBE16, List.cons_append,
            List.nil_append]
        · cases h
      · split at h
        · rename_i hb
          cases h
          exact ⟨congrArg (· :: rest) hb.symm, trivial⟩
        · cases h
  · rintro ⟨rfl, hc⟩
    cases s with
    | start h bitmap => exact decode_start hc bitmap
    | more bitmap => exact decode_more bitmap

end RawStatus
end Seph.Bagl
