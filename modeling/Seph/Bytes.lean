/-!
# Bytes and words

Byte strings, and the two ways of writing a number in base 256. Every byte string is the written form
of the number it spells (`toLE_ofLE`, `toBE_ofBE`).
-/

namespace Seph

/-- A byte string. -/
abbrev Bytes := List UInt8

namespace Bytes

/-- The byte string cut from the left into pieces of `n` bytes (of one byte when `n` is `0`); the
last piece may be shorter. -/
def pieces (n : Nat) (bs : Bytes) : List Bytes :=
  if _h : bs = [] then []
  else bs.take (max n 1) :: pieces n (bs.drop (max n 1))
termination_by bs.length
decreasing_by
  have : 0 < bs.length := List.length_pos_iff.2 _h
  simp only [List.length_drop]
  omega

@[simp] theorem pieces_nil (n : Nat) : pieces n [] = [] := by
  rw [pieces]; simp

theorem flatten_pieces (n : Nat) (bs : Bytes) : (pieces n bs).flatten = bs := by
  fun_induction pieces n bs with
  | case1 => rfl
  | case2 bs h ih => rw [List.flatten_cons, ih, List.take_append_drop]

/-- The byte string followed by zero bytes up to `n` bytes, or cut to `n` bytes. -/
def resize (n : Nat) (bs : Bytes) : Bytes :=
  bs.take n ++ List.replicate (n - bs.length) 0

@[simp] theorem length_resize (n : Nat) (bs : Bytes) : (resize n bs).length = n := by
  simp only [resize, List.length_append, List.length_take, List.length_replicate]
  omega

/-- The first `n` bytes and those behind them, if there are as many. -/
def cut? (n : Nat) (bs : Bytes) : Option (Bytes × Bytes) :=
  let front := bs.take n
  if front.length = n then some (front, bs.drop n) else none

theorem cut?_eq_some_iff {n : Nat} {bs front rest : Bytes} :
    cut? n bs = some (front, rest) ↔ bs = front ++ rest ∧ front.length = n := by
  simp only [cut?, Option.ite_none_right_eq_some, Option.some.injEq, Prod.mk.injEq]
  constructor
  · rintro ⟨h, rfl, rfl⟩
    exact ⟨(List.take_append_drop n bs).symm, h⟩
  · rintro ⟨rfl, rfl⟩
    simp

theorem cut?_eq_none_iff {n : Nat} {bs : Bytes} : cut? n bs = none ↔ bs.length < n := by
  simp only [cut?, List.length_take, Nat.min_def]
  split <;> simp <;> omega

end Bytes

namespace Word

/-- The number spelled by `bs` in base 256, least significant digit first. -/
def ofLE : Bytes → Nat
  | [] => 0
  | b :: bs => b.toNat + 256 * ofLE bs

/-- The number spelled by `bs` in base 256, most significant digit first. -/
def ofBE (bs : Bytes) : Nat := ofLE bs.reverse

/-- The `k` lowest base-256 digits of `n`, least significant first. -/
def toLE : Nat → Nat → Bytes
  | 0, _ => []
  | k + 1, n => UInt8.ofNat n :: toLE k (n / 256)

/-- The `k` lowest base-256 digits of `n`, most significant first. -/
def toBE (k n : Nat) : Bytes := (toLE k n).reverse

@[simp] theorem length_toLE (k n : Nat) : (toLE k n).length = k := by
  induction k generalizing n with
  | zero => rfl
  | succ k ih => simp [toLE, ih]

@[simp] theorem length_toBE (k n : Nat) : (toBE k n).length = k := by simp [toBE]

theorem toLE_ofLE (bs : Bytes) : toLE bs.length (ofLE bs) = bs := by
  induction bs with
  | nil => rfl
  | cons b bs ih =>
    have hb : b.toNat < 256 := b.toNat_lt
    have hd : (b.toNat + 256 * ofLE bs) / 256 = ofLE bs := by omega
    have hm : UInt8.ofNat (b.toNat + 256 * ofLE bs) = b := by
      apply UInt8.toNat_inj.1
      simp only [UInt8.toNat_ofNat']
      omega
    simp only [ofLE, List.length_cons, toLE, hd, ih, hm]

theorem toBE_ofBE (bs : Bytes) : toBE bs.length (ofBE bs) = bs := by
  have h := toLE_ofLE bs.reverse
  rw [List.length_reverse] at h
  simp [toBE, ofBE, h]

/-! ## Words of fixed width -/

/-- A 16-bit word, high byte first. -/
def be16 (w : UInt16) : Bytes := toBE 2 w.toNat

/-- A 32-bit word, high byte first. -/
def be32 (w : UInt32) : Bytes := toBE 4 w.toNat

/-- A 16-bit word, low byte first. -/
def le16 (w : UInt16) : Bytes := toLE 2 w.toNat

/-- A 32-bit word, low byte first. -/
def le32 (w : UInt32) : Bytes := toLE 4 w.toNat

/-- The 16-bit word with high byte `a` and low byte `b`. -/
def ofBE16 (a b : UInt8) : UInt16 := UInt16.ofNat (ofBE [a, b])

/-- The 32-bit word with bytes `a`, `b`, `c`, `d` from the highest. -/
def ofBE32 (a b c d : UInt8) : UInt32 := UInt32.ofNat (ofBE [a, b, c, d])

/-- The 16-bit word with low byte `a` and high byte `b`. -/
def ofLE16 (a b : UInt8) : UInt16 := UInt16.ofNat (ofLE [a, b])

/-- The 32-bit word with bytes `a`, `b`, `c`, `d` from the lowest. -/
def ofLE32 (a b c d : UInt8) : UInt32 := UInt32.ofNat (ofLE [a, b, c, d])

end Word
end Seph
