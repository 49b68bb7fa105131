import Mathlib.Algebra.Ring.Nat
import Seph.Picture.RunLength

/-!
# Code words of four bits

Bytes are read in the four-bit code from the left, one code word after the other. What a code word looks
like is said here by its bits (`Code.Form`), without the reader. The low half of a last byte says nothing if
the values of a pack are even in number, so that such a code word has several forms.

1. `Code.read_form`, `Code.form_of_read`: the reader takes one form off, whatever follows.
   `Code.cutOff_of_read`, `Code.read_of_cutOff`: it fails where the bytes stop within a pack.
2. `Code.forms_or_cutOff`: bytes are code words to the end, or some code words and the start of a pack.
3. `Code.readAllFrom_forms`: code words in front are read first, whatever follows. So
   `Code.readAll_of_forms`, `Code.readAll_of_cutOff`.
4. `code_words_are_decoded`: what this says of decoding.
-/

namespace Seph.RunLength

/-- What the four-bit code keeps of a pixel. -/
def low (v : UInt8) : UInt8 := v &&& 15

theorem toNat_low (v : UInt8) : (low v).toNat = v.toNat % 16 := by
  rw [low, UInt8.toNat_and]
  exact Nat.and_two_pow_sub_one_eq_mod v.toNat 4

theorem low_lt (v : UInt8) : (low v).toNat < 16 := by
  rw [toNat_low]
  omega

theorem low_eq_of_mod {b v : UInt8} (h : b.toNat % 16 = v.toNat) : low b = v := by
  rw [← UInt8.toNat_inj, toNat_low, h]

namespace Code

/-! ## Forms -/

/-- Values two to a byte, the first in the high half. Of a last one alone the low half may be anything. -/
inductive Packed : Bytes → Bytes → Prop
  | nil : Packed [] []
  | last {v p : UInt8} (high : p.toNat / 16 = v.toNat) : Packed [v] [p]
  | pair {v w p : UInt8} {vs ps : Bytes} (small : w.toNat < 16)
      (halves : p.toNat = 16 * v.toNat + w.toNat) (rest : Packed vs ps) : Packed (v :: w :: vs) (p :: ps)

/-- The forms of a code word: `11RRRRRR` for `R + 1` white pixels, `10RRVVVV` and packed values for `R + 3`
single pixels, `0RRRVVVV` for `R + 1` pixels of value `V`. -/
inductive Form : Code → Bytes → Prop
  | white {b : UInt8} {r : Nat} (fits : r < 64) (byte : b.toNat = 128 + 64 + r) : Form (white (r + 1)) [b]
  | singles {b v : UInt8} {r : Nat} {vs ps : Bytes} (fits : r < 4) (small : v.toNat < 16)
      (byte : b.toNat = 128 + 16 * r + v.toNat) (others : vs.length = r + 2) (packed : Packed vs ps) :
      Form (singles (v :: vs)) (b :: ps)
  | run {b v : UInt8} {r : Nat} (fits : r < 8) (small : v.toNat < 16)
      (byte : b.toNat = 16 * r + v.toNat) : Form (run (r + 1) v) [b]

/-- Forms of code words one behind the other. -/
inductive Forms : List Code → Bytes → Prop
  | nil : Forms [] []
  | cons {c : Code} {w : Bytes} {cs : List Code} {bs : Bytes} (head : Form c w) (tail : Forms cs bs) :
      Forms (c :: cs) (w ++ bs)

/-- The bytes stop within a pack of single pixels, behind its first byte. -/
def CutOff (bs : Bytes) : Prop :=
  bs ≠ [] ∧ ∃ vs missing, missing ≠ [] ∧ Form (singles vs) (bs ++ missing)

/-- The number of pixels that a code word says. -/
def count : Code → Nat
  | white n => n
  | run n _ => n
  | singles vs => vs.length

theorem length_pixels (c : Code) : c.pixels.length = c.count := by
  cases c with
  | white n => exact List.length_replicate
  | run n v => exact List.length_replicate
  | singles vs => rfl

/-! ### Packed values -/

section Packed

variable {vs ps : Bytes}

theorem Packed.length_eq (h : Packed vs ps) : ps.length = (vs.length + 1) / 2 := by
  induction h with
  | nil => rfl
  | last high => simp
  | pair small halves rest ih =>
    simp only [List.length_cons]
    omega

theorem Packed.lt (h : Packed vs ps) : ∀ v ∈ vs, v.toNat < 16 := by
  induction h with
  | nil => simp
  | @last v p high =>
    have hp := p.toNat_lt
    simp only [List.mem_singleton, forall_eq]
    omega
  | @pair v w p vs ps small halves rest ih =>
    have hp := p.toNat_lt
    simp only [List.mem_cons, forall_eq_or_imp]
    exact ⟨by omega, small, ih⟩

theorem toNat_high (p : UInt8) : (p >>> 4).toNat = p.toNat / 16 := by
  rw [UInt8.toNat_shiftRight, Nat.shiftRight_eq_div_pow]
  rfl

theorem Packed.halves_eq (h : Packed vs ps) : ∃ fill, ps.flatMap Code.halves = vs ++ fill := by
  induction h with
  | nil => exact ⟨[], rfl⟩
  | @last v p high =>
    have hv : p >>> 4 = v := by rw [← UInt8.toNat_inj, toNat_high, high]
    exact ⟨[p &&& 15], by simp [Code.halves, hv]⟩
  | @pair v w p vs ps small halves rest ih =>
    obtain ⟨fill, hf⟩ := ih
    have hv : p >>> 4 = v := by
      rw [← UInt8.toNat_inj, toNat_high]
      omega
    have hw : p &&& 15 = w := low_eq_of_mod (by omega)
    exact ⟨fill, by simp [Code.halves, hv, hw, hf]⟩

theorem length_flatMap_halves (ps : Bytes) : (ps.flatMap Code.halves).length = 2 * ps.length := by
  induction ps with
  | nil => rfl
  | cons p ps ih =>
    rw [List.flatMap_cons, List.length_append, ih, List.length_cons]
    show 2 + 2 * ps.length = _
    omega

theorem length_take_halves (n : Nat) (hl : ps.length = (n + 1) / 2) :
    ((ps.flatMap Code.halves).take n).length = n := by
  rw [List.length_take, length_flatMap_halves, hl]
  omega

theorem packed_halves (n : Nat) (hl : ps.length = (n + 1) / 2) :
    Packed ((ps.flatMap Code.halves).take n) ps := by
  induction ps generalizing n with
  | nil =>
    rw [List.flatMap_nil, List.take_nil]
    exact .nil
  | cons p ps ih =>
    rw [List.length_cons] at hl
    rw [List.flatMap_cons]
    by_cases h1 : n = 1
    · subst h1
      have hps : ps = [] := List.eq_nil_of_length_eq_zero (by omega)
      subst hps
      exact .last (toNat_high p).symm
    · obtain ⟨k, rfl⟩ : ∃ k, n = k + 2 := ⟨n - 2, by omega⟩
      refine .pair (low_lt p) ?_ (ih k (by omega))
      rw [← low, toNat_high, toNat_low]
      omega

end Packed

/-! ## Reading -/

section Read

variable {b v : UInt8} {r : Nat} {c : Code} {rest after w : Bytes}

/-- The first byte of a code word is of one of three kinds. -/
theorem byte_cases (b : UInt8) :
    (∃ r, r < 64 ∧ b.toNat = 128 + 64 + r) ∨ (∃ r, r < 4 ∧ b.toNat = 128 + 16 * r + (low b).toNat) ∨
      ∃ r, r < 8 ∧ b.toNat = 16 * r + (low b).toNat := by
  have hb := b.toNat_lt
  rw [toNat_low]
  by_cases hw : 192 ≤ b.toNat
  · exact .inl ⟨b.toNat - 192, by omega, by omega⟩
  · by_cases hs : 128 ≤ b.toNat
    · exact .inr (.inl ⟨b.toNat / 16 - 8, by omega, by omega⟩)
    · exact .inr (.inr ⟨b.toNat / 16, by omega, by omega⟩)

theorem ge_white_iff : b ≥ 0xC0 ↔ 192 ≤ b.toNat := UInt8.le_iff_toNat_le

theorem ge_singles_iff : b ≥ 0x80 ↔ 128 ≤ b.toNat := UInt8.le_iff_toNat_le

theorem read_of_white (hr : r < 64) (hb : b.toNat = 128 + 64 + r) (rest : Bytes) :
    read b rest = some (white (r + 1), rest) := by
  have hw : b ≥ 0xC0 := ge_white_iff.2 (by omega)
  have hm : b.toNat &&& 63 = r := by
    rw [Nat.and_two_pow_sub_one_eq_mod _ 6]
    omega
  rw [read, if_pos hw, hm]

theorem read_of_run (hr : r < 8) (hv : v.toNat < 16) (hb : b.toNat = 16 * r + v.toNat) (rest : Bytes) :
    read b rest = some (run (r + 1) v, rest) := by
  have hw : ¬ b ≥ 0xC0 := mt ge_white_iff.1 (by omega)
  have hs : ¬ b ≥ 0x80 := mt ge_singles_iff.1 (by omega)
  have hd : b.toNat >>> 4 = r := by
    rw [Nat.shiftRight_eq_div_pow]
    omega
  have hl : b &&& 15 = v := low_eq_of_mod (by omega)
  rw [read, if_neg hw, if_neg hs, hd, hl]

theorem read_of_singles (hr : r < 4) (hv : v.toNat < 16) (hb : b.toNat = 128 + 16 * r + v.toNat)
    (rest : Bytes) :
    read b rest = if rest.length < (r + 3) / 2 then none
      else some (singles (v :: ((rest.take ((r + 3) / 2)).flatMap halves).take (r + 2)),
        rest.drop ((r + 3) / 2)) := by
  have hw : ¬ b ≥ 0xC0 := mt ge_white_iff.1 (by omega)
  have hs : b ≥ 0x80 := ge_singles_iff.2 (by omega)
  have hd : b.toNat >>> 4 &&& 3 = r := by
    rw [Nat.shiftRight_eq_div_pow, Nat.and_two_pow_sub_one_eq_mod _ 2]
    omega
  have hl : b &&& 15 = v := low_eq_of_mod (by omega)
  rw [read, if_neg hw, if_pos hs]
  dsimp only
  rw [hd, hl]

/-- **The reader takes a form off**, whatever follows. -/
theorem read_form (h : Form c (b :: w)) (rest : Bytes) : read b (w ++ rest) = some (c, rest) := by
  cases h with
  | white fits byte => exact read_of_white fits byte rest
  | run fits small byte => exact read_of_run fits small byte rest
  | @singles _ v r vs _ fits small byte others packed =>
    have hl : w.length = (r + 3) / 2 := by
      rw [packed.length_eq, others]
    have hfit : ¬ (w ++ rest).length < w.length := by
      rw [List.length_append]
      omega
    obtain ⟨fill, hf⟩ := packed.halves_eq
    rw [read_of_singles fits small byte, ← hl, if_neg hfit, List.take_left, List.drop_left, hf,
      List.take_left' others]

/-- **What the reader takes off is a form.** -/
theorem form_of_read (h : read b rest = some (c, after)) : ∃ w, Form c (b :: w) ∧ rest = w ++ after := by
  have hv := low_lt b
  rcases byte_cases b with ⟨r, hr, hb⟩ | ⟨r, hr, hb⟩ | ⟨r, hr, hb⟩
  · rw [read_of_white hr hb] at h
    cases h
    exact ⟨[], .white hr hb, rfl⟩
  · rw [read_of_singles hr hv hb] at h
    by_cases hshort : rest.length < (r + 3) / 2
    · rw [if_pos hshort] at h
      cases h
    · rw [if_neg hshort] at h
      cases h
      have hl : (rest.take ((r + 3) / 2)).length = (r + 2 + 1) / 2 := by
        rw [List.length_take]
        omega
      exact ⟨rest.take ((r + 3) / 2),
        .singles hr hv hb (length_take_halves (r + 2) hl) (packed_halves (r + 2) hl),
        (List.take_append_drop _ rest).symm⟩
  · rw [read_of_run hr hv hb] at h
    cases h
    exact ⟨[], .run hr hv hb, rfl⟩

/-- Where the reader fails, the bytes stop within a pack: with as many bytes more as are missing, whichever
they are, there would be one. -/
theorem cutOff_of_read (h : read b rest = none) : CutOff (b :: rest) := by
  have hv := low_lt b
  rcases byte_cases b with ⟨r, hr, hb⟩ | ⟨r, hr, hb⟩ | ⟨r, hr, hb⟩
  · rw [read_of_white hr hb] at h
    cases h
  · rw [read_of_singles hr hv hb] at h
    by_cases hshort : rest.length < (r + 3) / 2
    · have hl : (rest ++ List.replicate ((r + 3) / 2 - rest.length) 0).length = (r + 2 + 1) / 2 := by
        rw [List.length_append, List.length_replicate]
        omega
      refine ⟨List.cons_ne_nil b rest, _, List.replicate ((r + 3) / 2 - rest.length) 0, ?_,
        .singles hr hv hb (length_take_halves (r + 2) hl) (packed_halves (r + 2) hl)⟩
      apply List.ne_nil_of_length_pos
      rw [List.length_replicate]
      omega
    · rw [if_neg hshort] at h
      cases h
  · rw [read_of_run hr hv hb] at h
    cases h

/-- Where the bytes stop within a pack, the reader fails: no form is the start of another. -/
theorem read_of_cutOff (h : CutOff (b :: rest)) : read b rest = none := by
  obtain ⟨-, vs, missing, hm, hf⟩ := h
  cases hread : read b rest with
  | none => rfl
  | some p =>
    obtain ⟨c, after⟩ := p
    obtain ⟨w, hw, rfl⟩ := form_of_read hread
    have h₁ : read b (w ++ (after ++ missing)) = some (c, after ++ missing) := read_form hw _
    rw [List.cons_append, List.append_assoc] at hf
    have h₂ := read_form hf []
    rw [List.append_nil, h₁] at h₂
    obtain ⟨-, hnil⟩ := Prod.mk.inj (Option.some.inj h₂)
    exact absurd (List.append_eq_nil_iff.1 hnil).2 hm

end Read

/-! ## Reading on -/

section ReadAll

variable {cs cs' : List Code} {bs front tail : Bytes}

theorem Form.exists_cons {c : Code} {w : Bytes} (h : Form c w) : ∃ b w', w = b :: w' := by
  cases h with
  | white | singles | run => exact ⟨_, _, rfl⟩

theorem Forms.append (h : Forms cs front) (h' : Forms cs' bs) : Forms (cs ++ cs') (front ++ bs) := by
  induction h with
  | nil => exact h'
  | cons head tail ih =>
    rw [List.append_assoc]
    exact .cons head ih

/-- **Bytes are code words to the end, or code words and the start of a pack.** -/
theorem forms_or_cutOff (bs : Bytes) :
    (∃ cs, Forms cs bs) ∨ ∃ cs front tail, Forms cs front ∧ CutOff tail ∧ bs = front ++ tail := by
  -- on the number of bytes, since a code word takes several of them off
  induction hn : bs.length using Nat.strongRecOn generalizing bs with
  | ind n ih =>
    cases bs with
    | nil => exact .inl ⟨[], .nil⟩
    | cons b rest =>
      cases hread : read b rest with
      | none => exact .inr ⟨[], [], b :: rest, .nil, cutOff_of_read hread, rfl⟩
      | some p =>
        obtain ⟨c, after⟩ := p
        have hlt : after.length < n := by
          have := length_of_read hread
          rw [List.length_cons] at hn
          omega
        obtain ⟨w, hw, rfl⟩ := form_of_read hread
        rcases ih _ hlt after rfl with ⟨cs, hcs⟩ | ⟨cs, front, tail, hcs, htail, rfl⟩
        · exact .inl ⟨c :: cs, .cons hw hcs⟩
        · refine .inr ⟨c :: cs, b :: w ++ front, tail, .cons hw hcs, htail, ?_⟩
          rw [List.cons_append, List.cons_append, List.append_assoc]

theorem readAllFrom_cons (acc : List Code) (b : UInt8) (rest : Bytes) :
    readAllFrom acc (b :: rest) =
      match read b rest with
      | none => none
      | some (c, after) => readAllFrom (c :: acc) after := by
  rw [readAllFrom]
  split <;> simp_all

/-- **Code words in front are read first**, whatever follows. -/
theorem readAllFrom_forms (h : Forms cs front) (acc : List Code) (tail : Bytes) :
    readAllFrom acc (front ++ tail) = readAllFrom (cs.reverse ++ acc) tail := by
  induction h generalizing acc with
  | nil => rfl
  | @cons c w cs bs head rest ih =>
    obtain ⟨b, w, rfl⟩ := head.exists_cons
    rw [List.cons_append, List.cons_append, List.append_assoc, readAllFrom_cons, read_form head]
    dsimp only
    rw [ih, List.reverse_cons, List.append_assoc]
    rfl

theorem readAll_of_forms (h : Forms cs bs) : readAll bs = some cs := by
  have := readAllFrom_forms h [] []
  rw [List.append_nil, List.append_nil, readAllFrom, List.reverse_reverse] at this
  exact this

theorem readAll_of_cutOff (h : Forms cs front) (ht : CutOff tail) : readAll (front ++ tail) = none := by
  obtain ⟨b, rest, rfl⟩ := List.exists_cons_of_ne_nil ht.1
  rw [readAll, readAllFrom_forms h, readAllFrom_cons, read_of_cutOff ht]

/-- Bytes are code words in one way only. -/
theorem Forms.unique (h : Forms cs bs) (h' : Forms cs' bs) : cs = cs' := by
  have := (readAll_of_forms h).symm.trans (readAll_of_forms h')
  exact Option.some.inj this

theorem readAll_append (h : Forms cs front) (more : Bytes) :
    readAll (front ++ more) = (readAll more).map (cs ++ ·) := by
  rcases forms_or_cutOff more with ⟨cs', hcs'⟩ | ⟨cs', front', tail, hcs', htail, rfl⟩
  · rw [readAll_of_forms (h.append hcs'), readAll_of_forms hcs']
    rfl
  · rw [← List.append_assoc, readAll_of_cutOff (h.append hcs') htail, readAll_of_cutOff hcs' htail]
    rfl

end ReadAll

/-! ## Pixels -/

theorem Form.pixels_le {c : Code} {w : Bytes} (h : Form c w) : ∀ v ∈ c.pixels, v ≤ 15 := by
  have le_of_lt {v : UInt8} (hv : v.toNat < 16) : v ≤ 15 := by
    rw [UInt8.le_iff_toNat_le]
    show v.toNat ≤ 15
    omega
  intro v hv
  cases h with
  | white fits byte =>
    rw [List.eq_of_mem_replicate hv]
    decide
  | run fits small byte =>
    rw [List.eq_of_mem_replicate hv]
    exact le_of_lt small
  | singles fits small byte others packed =>
    rcases List.mem_cons.1 hv with rfl | hv
    · exact le_of_lt small
    · exact le_of_lt (packed.lt v hv)

theorem Forms.pixels_le {cs : List Code} {bs : Bytes} (h : Forms cs bs) :
    ∀ v ∈ cs.flatMap pixels, v ≤ 15 := by
  induction h with
  | nil => simp
  | cons head tail ih =>
    intro v hv
    rw [List.flatMap_cons] at hv
    rcases List.mem_append.1 hv with hv | hv
    · exact head.pixels_le v hv
    · exact ih v hv

theorem length_flatMap_pixels (cs : List Code) :
    (cs.flatMap pixels).length = (cs.map count).sum := by
  induction cs with
  | nil => rfl
  | cons c cs ih =>
    rw [List.flatMap_cons, List.length_append, length_pixels, ih, List.map_cons, List.sum_cons]

end Code

/-! ## Decoding -/

section Decode

open Code (Forms CutOff)

variable {cs : List Code} {bs front tail : Bytes}

theorem decode4_of_forms (h : Forms cs bs) : decode4 bs = .ok (cs.flatMap Code.pixels) := by
  rw [decode4, Code.readAll_of_forms h]

theorem decode4_of_cutOff (h : Forms cs front) (ht : CutOff tail) :
    decode4 (front ++ tail) = .error (.image .truncatedSingles) := by
  rw [decode4, Code.readAll_of_cutOff h ht]

theorem decode4_append (h : Forms cs front) (more : Bytes) :
    decode4 (front ++ more) = (decode4 more).map (cs.flatMap Code.pixels ++ ·) := by
  rw [decode4, Code.readAll_append h, decode4]
  cases Code.readAll more with
  | none => rfl
  | some cs' =>
    rw [Option.map_some]
    dsimp only
    rw [List.flatMap_append]
    rfl

/-- **Decoding reads code words.** Take any bytes. Decoding fails exactly if behind some code words they stop
within a pack of single pixels, and it succeeds exactly if they are code words to the end, which they are in
one way at most; then it gives the pixels of the code words one after the other, as many as these say
together, and each of them a value of four bits. Whatever follows bytes that can be decoded is decoded as if
it stood alone: its pixels come behind theirs, or it fails as it does alone. -/
theorem code_words_are_decoded (bs : Bytes) :
    (∀ e, decode4 bs = .error e ↔ e = .image .truncatedSingles ∧
      ∃ cs front tail, Forms cs front ∧ CutOff tail ∧ bs = front ++ tail) ∧
    (∀ px, decode4 bs = .ok px ↔ ∃ cs, Forms cs bs ∧ px = cs.flatMap Code.pixels) ∧
    (∀ cs cs', Forms cs bs → Forms cs' bs → cs = cs') ∧
    (∀ px, decode4 bs = .ok px →
      (∀ v ∈ px, v ≤ 15) ∧ ∃ cs, Forms cs bs ∧ px.length = (cs.map Code.count).sum) ∧
    ∀ px more, decode4 bs = .ok px → decode4 (bs ++ more) = (decode4 more).map (px ++ ·) := by
  have forms_of_ok {px : Bytes} (h : decode4 bs = .ok px) :
      ∃ cs, Forms cs bs ∧ px = cs.flatMap Code.pixels := by
    rcases Code.forms_or_cutOff bs with ⟨cs, hcs⟩ | ⟨cs, front, tail, hcs, htail, rfl⟩
    · rw [decode4_of_forms hcs] at h
      exact ⟨cs, hcs, (Except.ok.inj h).symm⟩
    · rw [decode4_of_cutOff hcs htail] at h
      cases h
  refine ⟨?_, ?_, ?_, ?_, ?_⟩
  · intro e
    constructor
    · intro h
      rcases Code.forms_or_cutOff bs with ⟨cs, hcs⟩ | ⟨cs, front, tail, hcs, htail, rfl⟩
      · rw [decode4_of_forms hcs] at h
        cases h
      · rw [decode4_of_cutOff hcs htail] at h
        exact ⟨(Except.error.inj h).symm, cs, front, tail, hcs, htail, rfl⟩
    · rintro ⟨rfl, cs, front, tail, hcs, htail, rfl⟩
      exact decode4_of_cutOff hcs htail
  · intro px
    constructor
    · exact forms_of_ok
    · rintro ⟨cs, hcs, rfl⟩
      exact decode4_of_forms hcs
  · intro cs cs' h h'
    exact h.unique h'
  · intro px h
    obtain ⟨cs, hcs, rfl⟩ := forms_of_ok h
    exact ⟨hcs.pixels_le, cs, hcs, Code.length_flatMap_pixels cs⟩
  · intro px more h
    obtain ⟨cs, hcs, rfl⟩ := forms_of_ok h
    exact decode4_append hcs more

/-- Three white pixels, four of value 5 and a pack of four, whose last byte is half full. A pack that is cut
off behind them cannot be decoded, a run of two can. -/
theorem code_words_are_decoded_before_more :
    let bs : Bytes := [0xC2, 0x35, 0x91, 0x23, 0x47]
    let px : Bytes := [15, 15, 15, 5, 5, 5, 5, 1, 2, 3, 4]
    decode4 bs = .ok px ∧ (∀ v ∈ px, v ≤ 15) ∧ decode4 (bs ++ [0x1E]) = .ok (px ++ [14, 14]) ∧
      decode4 (bs ++ [0xB1, 0x23]) = .error (.image .truncatedSingles) := by
  intro bs px
  have h : decode4 bs = .ok px := by cbv
  obtain ⟨-, -, -, four, append⟩ := code_words_are_decoded bs
  have hrun : decode4 [0x1E] = .ok [14, 14] := by cbv
  have hcut : decode4 [0xB1, 0x23] = .error (.image .truncatedSingles) := by cbv
  refine ⟨h, (four px h).1, ?_, ?_⟩
  · rw [append px [0x1E] h, hrun]
    rfl
  · rw [append px [0xB1, 0x23] h, hcut]
    rfl

end Decode

end Seph.RunLength
