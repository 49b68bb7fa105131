import Mathlib.Algebra.Group.Nat.Defs
import Seph.Bytes

/-!
# Bytes and words

Writing `n` in `k` bytes keeps `n` modulo `256 ^ k` (`ofLE_toLE`, `ofBE_toBE`), and what is spelled by
`k` bytes is below `256 ^ k`. Words and their bytes determine each other (`exists_be16`, `be16_ofBE16`
and the like). A byte string is cut into as few pieces as their size allows, and none
of them is longer than was asked for.
-/

namespace Seph

theorem Bytes.pieces_of_le {n : Nat} {bs : Bytes} (hne : bs ≠ []) (h : bs.length ≤ n) :
    pieces n bs = [bs] := by
  have hm : bs.length ≤ max n 1 := Nat.le_trans h (Nat.le_max_left n 1)
  rw [pieces, dif_neg hne, List.take_of_length_le hm, List.drop_eq_nil_of_le hm, pieces_nil]

theorem Bytes.pieces_of_lt {n : Nat} {bs : Bytes} (hn : 0 < n) (h : n < bs.length) :
    pieces n bs = bs.take n :: pieces n (bs.drop n) := by
  have hne : bs ≠ [] := List.ne_nil_of_length_pos (by omega)
  have hm : max n 1 = n := Nat.max_eq_left hn
  rw [pieces, dif_neg hne, hm]

/-- No piece is empty, so there are at most as many pieces as bytes. -/
theorem Bytes.length_pieces_le (n : Nat) (bs : Bytes) : (pieces n bs).length ≤ bs.length := by
  fun_induction pieces n bs with
  | case1 => exact Nat.le_refl 0
  | case2 bs hne ih =>
    have hpos : 0 < bs.length := List.length_pos_iff.2 hne
    rw [List.length_drop] at ih
    rw [List.length_cons]
    omega

theorem Bytes.length_of_mem_pieces {n : Nat} {bs b : Bytes} (h : b ∈ pieces n bs) :
    b.length ≤ max n 1 := by
  fun_induction pieces n bs with
  | case1 => cases h
  | case2 bs hne ih =>
    rcases List.mem_cons.1 h with rfl | h
    · rw [List.length_take]
      exact Nat.min_le_left _ _
    · exact ih h

theorem Bytes.length_pieces {n : Nat} (hn : 0 < n) (bs : Bytes) :
    (pieces n bs).length = (bs.length + n - 1) / n := by
  induction hl : bs.length using Nat.strongRecOn generalizing bs with
  | ind l ih =>
    subst hl
    by_cases hne : bs = []
    · subst hne
      rw [pieces_nil]
      exact (Nat.div_eq_of_lt (by rw [List.length_nil]; omega)).symm
    · have hpos : 0 < bs.length := List.length_pos_iff.2 hne
      rcases Nat.lt_or_ge n bs.length with hlt | hle
      · have hd : (bs.drop n).length = bs.length - n := List.length_drop
        have hsum : bs.length + n - 1 = (bs.length - n + n - 1) + n := by omega
        rw [pieces_of_lt hn hlt, List.length_cons, ih _ (by omega) _ hd, hsum, Nat.add_div_right _ hn]
      · rw [pieces_of_le hne hle, List.length_singleton]
        exact (Nat.div_eq_of_lt_le (by omega) (by omega)).symm

theorem Bytes.flatten_map_resize_pieces {n : Nat} (hn : 0 < n) (bs : Bytes) :
    ((pieces n bs).map (resize n)).flatten =
      bs ++ List.replicate (n * (pieces n bs).length - bs.length) 0 := by
  induction hl : bs.length using Nat.strongRecOn generalizing bs with
  | ind l ih =>
    subst hl
    by_cases hne : bs = []
    · subst hne
      simp
    · rcases Nat.lt_or_ge n bs.length with hlt | hle
      · have hd : (bs.drop n).length = bs.length - n := List.length_drop
        have htake : (bs.take n).length = n := by
          rw [List.length_take]
          omega
        have hfirst : resize n (bs.take n) = bs.take n := by
          rw [resize, htake, Nat.sub_self, List.replicate_zero, List.append_nil, List.take_take,
            Nat.min_self]
        have hzeros (c : Nat) : n * (c + 1) - bs.length = n * c - (bs.length - n) := by
          rw [Nat.mul_succ]
          omega
        rw [pieces_of_lt hn hlt, List.map_cons, List.flatten_cons, ih _ (by omega) _ hd, hfirst,
          List.length_cons, hzeros, ← List.append_assoc, List.take_append_drop]
      · rw [pieces_of_le hne hle]
        simp [resize, List.take_of_length_le hle]

namespace Word

theorem ofLE_lt (bs : Bytes) : ofLE bs < 256 ^ bs.length := by
  induction bs with
  | nil => simp [ofLE]
  | cons b bs ih =>
    have hb : b.toNat < 256 := b.toNat_lt
    simp only [ofLE, List.length_cons, Nat.pow_succ]
    omega

theorem ofBE_lt (bs : Bytes) : ofBE bs < 256 ^ bs.length := by
  simpa [ofBE] using ofLE_lt bs.reverse

theorem ofLE_toLE (k n : Nat) : ofLE (toLE k n) = n % 256 ^ k := by
  induction k generalizing n with
  | zero => simp [toLE, ofLE, Nat.mod_one]
  | succ k ih =>
    have hm : (UInt8.ofNat n).toNat = n % 256 := by simp
    rw [toLE, ofLE, ih, hm, Nat.pow_succ, Nat.mul_comm (256 ^ k) 256, Nat.mod_mul]

theorem ofLE_toLE_of_lt {k n : Nat} (h : n < 256 ^ k) : ofLE (toLE k n) = n := by
  rw [ofLE_toLE, Nat.mod_eq_of_lt h]

theorem ofBE_toBE (k n : Nat) : ofBE (toBE k n) = n % 256 ^ k := by
  simp [ofBE, toBE, ofLE_toLE]

/-! ## Words of two bytes -/

theorem toNat_ofBE16 (a b : UInt8) : (ofBE16 a b).toNat = 256 * a.toNat + b.toNat := by
  have ha : a.toNat < 256 := a.toNat_lt
  have hb : b.toNat < 256 := b.toNat_lt
  have hw : ofBE [a, b] = 256 * a.toNat + b.toNat := by
    simp only [ofBE, List.reverse_cons, List.reverse_nil, List.nil_append, List.cons_append, ofLE]
    omega
  rw [ofBE16, UInt16.toNat_ofNat', hw]
  omega

theorem ofBE16_eq_zero_iff {a b : UInt8} : ofBE16 a b = 0 ↔ a = 0 ∧ b = 0 := by
  rw [← UInt16.toNat_inj, toNat_ofBE16, ← UInt8.toNat_inj, ← UInt8.toNat_inj]
  show 256 * a.toNat + b.toNat = 0 ↔ a.toNat = 0 ∧ b.toNat = 0
  omega

theorem be16_ofBE16 (a b : UInt8) : be16 (ofBE16 a b) = [a, b] := by
  have hlt : ofBE [a, b] < 65536 := by simpa using ofBE_lt [a, b]
  have hn : (ofBE16 a b).toNat = ofBE [a, b] := by
    rw [ofBE16, UInt16.toNat_ofNat']
    omega
  rw [be16, hn]
  exact toBE_ofBE [a, b]

theorem exists_be16 (w : UInt16) : ∃ a b, be16 w = [a, b] ∧ ofBE16 a b = w := by
  refine ⟨UInt8.ofNat (w.toNat / 256), UInt8.ofNat w.toNat, rfl, ?_⟩
  have hw : w.toNat < 65536 := w.toNat_lt
  rw [← UInt16.toNat_inj, toNat_ofBE16, UInt8.toNat_ofNat', UInt8.toNat_ofNat']
  omega

theorem exists_le16 (w : UInt16) : ∃ a b, le16 w = [a, b] ∧ ofLE16 a b = w := by
  refine ⟨UInt8.ofNat w.toNat, UInt8.ofNat (w.toNat / 256), rfl, ?_⟩
  show UInt16.ofNat (ofLE (toLE 2 w.toNat)) = w
  rw [ofLE_toLE_of_lt w.toNat_lt, UInt16.ofNat_toNat]

theorem le16_ofLE16 (a b : UInt8) : le16 (ofLE16 a b) = [a, b] := by
  have hlt : ofLE [a, b] < 65536 := by simpa using ofLE_lt [a, b]
  have hn : (ofLE16 a b).toNat = ofLE [a, b] := by
    rw [ofLE16, UInt16.toNat_ofNat']
    omega
  rw [le16, hn]
  exact toLE_ofLE [a, b]

/-! ## Words of four bytes -/

theorem exists_le32 (w : UInt32) : ∃ a b c d, le32 w = [a, b, c, d] ∧ ofLE32 a b c d = w := by
  refine ⟨_, _, _, _, rfl, ?_⟩
  show UInt32.ofNat (ofLE (toLE 4 w.toNat)) = w
  rw [ofLE_toLE_of_lt w.toNat_lt, UInt32.ofNat_toNat]

theorem exists_be32 (w : UInt32) : ∃ a b c d, be32 w = [a, b, c, d] ∧ ofBE32 a b c d = w := by
  refine ⟨_, _, _, _, rfl, ?_⟩
  have hw : w.toNat < 256 ^ 4 := w.toNat_lt
  show UInt32.ofNat (ofBE (toBE 4 w.toNat)) = w
  rw [ofBE_toBE, Nat.mod_eq_of_lt hw, UInt32.ofNat_toNat]

theorem le32_ofLE32 (a b c d : UInt8) : le32 (ofLE32 a b c d) = [a, b, c, d] := by
  have hlt : ofLE [a, b, c, d] < 4294967296 := by simpa using ofLE_lt [a, b, c, d]
  have hn : (ofLE32 a b c d).toNat = ofLE [a, b, c, d] := by
    rw [ofLE32, UInt32.toNat_ofNat']
    omega
  rw [le32, hn]
  exact toLE_ofLE [a, b, c, d]

theorem be32_ofBE32 (a b c d : UInt8) : be32 (ofBE32 a b c d) = [a, b, c, d] := by
  have hlt : ofBE [a, b, c, d] < 4294967296 := by simpa using ofBE_lt [a, b, c, d]
  have hn : (ofBE32 a b c d).toNat = ofBE [a, b, c, d] := by
    rw [ofBE32, UInt32.toNat_ofNat']
    omega
  rw [be32, hn]
  exact toBE_ofBE [a, b, c, d]

end Word
end Seph
