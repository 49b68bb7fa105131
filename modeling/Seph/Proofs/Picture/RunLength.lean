import Seph.Proofs.Picture.CodeWords

/-!
# Run-length codes

What is written in one of the two run-length codes is read back, up to what the code does not keep of a
pixel: of four bits it keeps the low half of the byte, of one bit whether the byte is zero. No code is
longer than the pixels.

1. `Code.form_bytes`: the bytes of a code word are one of its forms, so that they are read as it.
2. `nextCode_spec`: the code word chosen for the start of the pixels has just these pixels.
3. `decode4_encode4`, `length_encode4_le`: the four-bit code, by induction on the choices, and
   `four_bits_read_back`: both together.
4. `nextRuns_spec`, `decode1_encode1`, `length_encode1_le`: the same for the one-bit code, and
   `one_bit_read_back`, which also says that no byte is zero.
-/

namespace Seph.RunLength

/-- What the one-bit code keeps of a pixel. -/
def lit (v : UInt8) : UInt8 := if v = 0 then 0 else 1

theorem low_of_lt {v : UInt8} (h : v.toNat < 16) : low v = v := low_eq_of_mod (Nat.mod_eq_of_lt h)

theorem low_low (v : UInt8) : low (low v) = low v := low_of_lt (low_lt v)

theorem lit_of_lt {v : UInt8} (h : v.toNat < 2) : lit v = v := by
  unfold lit
  rw [← UInt8.toNat_inj]
  split
  · rename_i h0
    rw [h0]
  · rename_i h0
    rw [← UInt8.toNat_inj, UInt8.toNat_zero] at h0
    show 1 = v.toNat
    omega

/-! ## Writing code words -/

namespace Code

/-- The code word has a number of pixels that its bytes can say. -/
def Valid : Code → Prop
  | white n => 1 ≤ n ∧ n ≤ 64
  | run n _ => 1 ≤ n ∧ n ≤ 8
  | singles vs => 3 ≤ vs.length ∧ vs.length ≤ 6

/-- What the bytes of a code word keep of it. -/
def mask : Code → Code
  | white n => white n
  | run n v => run n (low v)
  | singles vs => singles (vs.map low)

theorem toNat_halves (a b : UInt8) : (low a * 16 + low b).toNat = a.toNat % 16 * 16 + b.toNat % 16 := by
  rw [UInt8.toNat_add, UInt8.toNat_mul, toNat_low, toNat_low]
  show (a.toNat % 16 * 16 % 256 + b.toNat % 16) % 256 = _
  omega

/-- The values are packed two to a byte, as far as the bytes keep them. -/
theorem packed_packPairs (vs : Bytes) : Packed (vs.map low) (packPairs vs) := by
  induction vs using packPairs.induct with
  | case1 a b rest ih =>
    refine .pair (low_lt b) ?_ ih
    rw [← low, ← low, toNat_halves, toNat_low, toNat_low]
    omega
  | case2 a =>
    have h0 : low a * 16 = low a * 16 + low 0 := (UInt8.add_zero _).symm
    refine .last ?_
    rw [← low, h0, toNat_halves, toNat_low]
    show (a.toNat % 16 * 16 + 0) / 16 = _
    omega
  | case3 => exact .nil

theorem length_packPairs (vs : Bytes) : (packPairs vs).length = (vs.length + 1) / 2 := by
  rw [(packed_packPairs vs).length_eq, List.length_map]

/-- The byte with `k` in its high half and a value in its low half. -/
def first (k : Nat) (v : UInt8) : UInt8 := UInt8.ofNat k * 16 + low v

theorem toNat_first {k : Nat} (hk : k < 16) (v : UInt8) : (first k v).toNat = k * 16 + (low v).toNat := by
  rw [first, UInt8.toNat_add, UInt8.toNat_mul, toNat_low, UInt8.toNat_ofNat']
  show (k % 256 * 16 % 256 + v.toNat % 16) % 256 = _
  omega

/-- **The bytes of a code word are a form of what they keep of it.** -/
theorem form_bytes {c : Code} (hc : c.Valid) : Form c.mask c.bytes := by
  cases c with
  | white n =>
    obtain ⟨r, rfl⟩ : ∃ r, n = r + 1 := ⟨n - 1, (Nat.sub_add_cancel hc.1).symm⟩
    have hr : r < 64 := hc.2
    refine .white hr ?_
    rw [Nat.add_sub_cancel, UInt8.toNat_add, UInt8.toNat_ofNat']
    show (192 + r % 256) % 256 = _
    omega
  | run n v =>
    obtain ⟨r, rfl⟩ : ∃ r, n = r + 1 := ⟨n - 1, (Nat.sub_add_cancel hc.1).symm⟩
    have hr : r < 8 := hc.2
    refine .run hr (low_lt v) ?_
    show (first r v).toNat = _
    rw [toNat_first (by omega)]
    omega
  | singles vs =>
    cases vs with
    | nil => exact absurd hc.1 (by decide)
    | cons v vs =>
      obtain ⟨hmin, hmax⟩ := hc
      rw [List.length_cons] at hmin hmax
      obtain ⟨r, hr⟩ : ∃ r, vs.length = r + 2 := ⟨vs.length - 2, by omega⟩
      have hb : (v :: vs).length - 3 = r := by
        rw [List.length_cons]
        omega
      refine .singles (r := r) (by omega) (low_lt v) ?_ ((List.length_map low).trans hr) (packed_packPairs vs)
      have h8 : 0x80 + UInt8.ofNat r * 16 = UInt8.ofNat (8 + r) * 16 := by
        rw [UInt8.ofNat_add, UInt8.add_mul]
        rfl
      rw [hb, h8]
      show (first (8 + r) v).toNat = _
      rw [toNat_first (by omega)]
      omega

theorem forms_bytes {cs : List Code} (h : ∀ c ∈ cs, c.Valid) : Forms (cs.map mask) (cs.flatMap bytes) := by
  induction cs with
  | nil => exact .nil
  | cons c cs ih =>
    obtain ⟨hc, hcs⟩ := List.forall_mem_cons.1 h
    rw [List.flatMap_cons]
    exact .cons (form_bytes hc) (ih hcs)

theorem length_bytes_pos {c : Code} (hc : c.Valid) : 0 < c.bytes.length := by
  obtain ⟨b, others, hb⟩ := (form_bytes hc).exists_cons
  rw [hb]
  exact Nat.succ_pos _

theorem length_le_bytes {cs : List Code} (h : ∀ c ∈ cs, c.Valid) :
    cs.length ≤ (cs.flatMap bytes).length := by
  induction cs with
  | nil => exact Nat.le_refl 0
  | cons c cs ih =>
    obtain ⟨hc, hcs⟩ := List.forall_mem_cons.1 h
    have hpos := length_bytes_pos hc
    have := ih hcs
    rw [List.flatMap_cons, List.length_append, List.length_cons]
    omega

theorem readAll_bytes {cs : List Code} (h : ∀ c ∈ cs, c.Valid) :
    readAll (cs.flatMap bytes) = some (cs.map mask) := readAll_of_forms (forms_bytes h)

end Code

/-! ## Choosing code words -/

/-- What is taken from the start of the pixels while it is of one kind, up to a number of pixels. -/
theorem takeWhile_take (f : UInt8 → Bool) (n : Nat) (px : Bytes) :
    (px.take n).takeWhile f <+: px ∧ ((px.take n).takeWhile f).length ≤ n := by
  refine ⟨(List.takeWhile_prefix f).trans (List.take_prefix n px), ?_⟩
  have := (List.takeWhile_prefix f (l := px.take n)).length_le
  rw [List.length_take] at this
  omega

section Choice

variable (p : UInt8) (rest : Bytes)

theorem takeWhile_beq (p : UInt8) (px : Bytes) :
    px.takeWhile (· == p) = List.replicate (px.takeWhile (· == p)).length p := by
  rw [List.eq_replicate_iff]
  exact ⟨rfl, fun q hq => eq_of_beq (List.all_eq_true.1 List.all_takeWhile q hq)⟩

theorem runLength_pos (most : Nat) : 1 ≤ runLength most p rest := Nat.le_add_right 1 _

theorem runLength_le {most : Nat} (h : 1 ≤ most) : runLength most p rest ≤ most := by
  have := (takeWhile_take (· == p) (most - 1) rest).2
  unfold runLength
  omega

theorem runLength_le_length (most : Nat) : runLength most p rest ≤ (p :: rest).length := by
  have := (takeWhile_take (· == p) (most - 1) rest).1.length_le
  unfold runLength
  rw [List.length_cons]
  omega

theorem take_runLength (most : Nat) :
    (p :: rest).take (runLength most p rest) = List.replicate (runLength most p rest) p := by
  have hp := (takeWhile_take (· == p) (most - 1) rest).1
  rw [runLength, Nat.add_comm, List.take_succ_cons, List.replicate_succ, ← List.prefix_iff_eq_take.1 hp]
  exact congrArg (p :: ·) (takeWhile_beq p _)

theorem singleCount_le (k : Nat) (px : Bytes) : singleCount k px ≤ k ∧ singleCount k px ≤ px.length := by
  induction k, px using singleCount.induct with
  | case1 | case2 => simp [singleCount]
  | case3 k p rest h ih =>
    rw [singleCount, if_pos h, List.length_cons]
    omega
  | case4 k p rest h =>
    rw [singleCount, if_neg h]
    exact ⟨Nat.zero_le _, Nat.zero_le _⟩

/-- The code word has the first `n` pixels, as far as it keeps them, and no more bytes than these. -/
structure Covers (px : Bytes) (r : Code × Nat) : Prop where
  valid : r.1.Valid
  le : r.2 ≤ px.length
  pixels : r.1.mask.pixels = (px.take r.2).map low
  short : r.1.bytes.length ≤ r.2

theorem covers_white (h : low p = whiteValue) :
    Covers (p :: rest) (.white (runLength 64 p rest), runLength 64 p rest) where
  valid := ⟨runLength_pos p rest 64, runLength_le p rest (by decide)⟩
  le := runLength_le_length p rest 64
  pixels := by rw [take_runLength, List.map_replicate, h]; rfl
  short := runLength_pos p rest 64

theorem covers_run {n : Nat} (hn : 1 ≤ n ∧ n ≤ 8) (hle : n ≤ (p :: rest).length)
    (ht : (p :: rest).take n = List.replicate n p) : Covers (p :: rest) (.run n (low p), n) where
  valid := hn
  le := hle
  pixels := by
    rw [ht, List.map_replicate]
    exact congrArg (List.replicate n) (low_low p)
  short := hn.1

theorem covers_singles {n : Nat} (hn : 3 ≤ n ∧ n ≤ 6) (hle : n ≤ (p :: rest).length) :
    Covers (p :: rest) (.singles ((p :: rest).take n), n) where
  valid := by
    show 3 ≤ ((p :: rest).take n).length ∧ _
    rwa [List.length_take_of_le hle]
  le := hle
  pixels := rfl
  short := by
    obtain ⟨n, rfl⟩ : ∃ m, n = m + 1 := ⟨n - 1, by omega⟩
    rw [List.take_succ_cons, Code.bytes, List.length_cons, Code.length_packPairs, List.length_take]
    omega

/-- **The code word chosen for the start of the pixels has just these pixels.** -/
theorem nextCode_spec : Covers (p :: rest) (nextCode p rest) := by
  unfold nextCode
  dsimp only
  split
  · exact covers_white p rest ‹_›
  · split
    · exact covers_run p rest ⟨runLength_pos p rest 8, runLength_le p rest (by decide)⟩
        (runLength_le_length p rest 8) (take_runLength p rest 8)
    · split
      · obtain ⟨hk, hl⟩ := singleCount_le 6 (p :: rest)
        exact covers_singles p rest ⟨‹_›, hk⟩ hl
      · exact covers_run p rest ⟨by decide, by decide⟩ (Nat.le_add_left 1 _) rfl

end Choice

/-! ## Four bits to the pixel -/

/-- The code words have the pixels, as far as they keep them, and no more bytes than these. -/
structure Spells (cs : List Code) (px : Bytes) : Prop where
  valid : ∀ c ∈ cs, c.Valid
  pixels : (cs.map Code.mask).flatMap Code.pixels = px.map low
  short : (cs.flatMap Code.bytes).length ≤ px.length

theorem spells_cons {r : Code × Nat} {cs : List Code} {px : Bytes} (hr : Covers px r)
    (hcs : Spells cs (px.drop r.2)) : Spells (r.1 :: cs) px where
  valid := List.forall_mem_cons.2 ⟨hr.valid, hcs.valid⟩
  pixels := by
    rw [List.map_cons, List.flatMap_cons, hr.pixels, hcs.pixels, ← List.map_append,
      List.take_append_drop]
  short := by
    have h₁ := hr.short
    have h₂ := hr.le
    have h₃ := hcs.short
    rw [List.length_drop] at h₃
    rw [List.flatMap_cons, List.length_append]
    omega

theorem spells_codesFrom (acc : List Code) (px : Bytes) :
    ∃ cs, codesFrom acc px = acc.reverse ++ cs ∧ Spells cs px := by
  -- what is in `acc` was chosen for earlier pixels, and stays in front
  induction acc, px using codesFrom.induct with
  | case1 acc => exact ⟨[], by rw [codesFrom, List.append_nil], nofun, rfl, Nat.le_refl 0⟩
  | case2 acc p rest r ih =>
    obtain ⟨cs, hcs, hs⟩ := ih
    refine ⟨r.1 :: cs, ?_, spells_cons (nextCode_spec p rest) hs⟩
    rw [codesFrom, hcs, List.reverse_cons, List.append_assoc]
    rfl

/-- **What is written in the four-bit code is read back**, as far as the code keeps it. -/
theorem decode4_encode4 (px : Bytes) : decode4 (encode4 px) = .ok (px.map low) := by
  obtain ⟨cs, hcs, hs⟩ := spells_codesFrom [] px
  have hr : Code.readAll (encode4 px) = some (cs.map Code.mask) := by
    rw [encode4, hcs]
    exact Code.readAll_bytes hs.valid
  rw [decode4, hr]
  exact congrArg Except.ok hs.pixels

theorem length_encode4_le (px : Bytes) : (encode4 px).length ≤ px.length := by
  obtain ⟨cs, hcs, hs⟩ := spells_codesFrom [] px
  rw [encode4, hcs]
  exact hs.short

/-- **What is written in the four-bit code is read back.** Take any pixels. The encoder is through after
at most as many code words as it writes bytes, and it writes no more bytes than there are pixels. Decoding
them succeeds and gives the pixels modulo 16, so just the pixels if they are values of four bits. -/
theorem four_bits_read_back (px : Bytes) :
    ((codesFrom [] px).length ≤ (encode4 px).length ∧ (encode4 px).length ≤ px.length) ∧
    decode4 (encode4 px) = .ok (px.map (· &&& 15)) ∧
    ((∀ v ∈ px, v ≤ 15) → decode4 (encode4 px) = .ok px) := by
  have hd : decode4 (encode4 px) = .ok (px.map low) := decode4_encode4 px
  refine ⟨⟨?_, length_encode4_le px⟩, hd, fun h => ?_⟩
  · obtain ⟨cs, hcs, hs⟩ := spells_codesFrom [] px
    rw [encode4, hcs]
    exact Code.length_le_bytes hs.valid
  · have hl : px.map low = px := by
      refine (List.map_congr_left fun v hv => low_of_lt ?_).trans (List.map_id px)
      have : v.toNat ≤ 15 := UInt8.le_iff_toNat_le.1 (h v hv)
      omega
    rw [hd, hl]

/-- White pixels, a run, packs of four and of three single pixels, and one alone. -/
theorem four_bits_of_every_form :
    let px : Bytes := [15, 15, 15, 7, 7, 1, 2, 3, 4, 15, 9, 8, 6, 15, 5]
    (∀ v ∈ px, v ≤ 15) ∧
      encode4 px = [0xC2, 0x17, 0x91, 0x23, 0x40, 0xC0, 0x89, 0x86, 0xC0, 0x05] ∧
      decode4 (encode4 px) = .ok px := by
  intro px
  have hv : ∀ v ∈ px, v ≤ 15 := by decide +kernel
  exact ⟨hv, by decide +kernel, (four_bits_read_back px).2.2 hv⟩

/-! ## One bit to the pixel -/

/-- The pixels of a run of zeros followed by a run of ones. -/
def runs (r : Nat × Nat) : Bytes := List.replicate r.1 0 ++ List.replicate r.2 1

/-- The runs are those at the start of the pixels, and both fit into a byte. -/
structure Begins (px : Bytes) (r : Nat × Nat) : Prop where
  zeros : r.1 ≤ maxRun
  ones : r.2 ≤ maxRun
  le : r.1 + r.2 ≤ px.length
  pixels : runs r = (px.take (r.1 + r.2)).map lit

theorem map_lit_takeWhile_zero (px : Bytes) :
    (px.takeWhile (· == 0)).map lit = List.replicate (px.takeWhile (· == 0)).length 0 := by
  rw [takeWhile_beq, List.map_replicate, List.length_replicate]
  rfl

theorem map_lit_takeWhile_ne (px : Bytes) :
    (px.takeWhile (· != 0)).map lit = List.replicate (px.takeWhile (· != 0)).length 1 := by
  rw [List.eq_replicate_iff, List.length_map]
  refine ⟨rfl, fun v hv => ?_⟩
  obtain ⟨q, hq, rfl⟩ := List.mem_map.1 hv
  have := List.all_eq_true.1 List.all_takeWhile q hq
  exact if_neg (bne_iff_ne.1 this)

theorem begins_append {zeros ones behind : Bytes} (hz : zeros.map lit = List.replicate zeros.length 0)
    (ho : ones.map lit = List.replicate ones.length 1) (hzl : zeros.length ≤ maxRun)
    (hol : ones.length ≤ maxRun) :
    Begins (zeros ++ (ones ++ behind)) (zeros.length, ones.length) where
  zeros := hzl
  ones := hol
  le := by
    rw [List.length_append, List.length_append]
    omega
  pixels := by
    rw [runs, ← List.append_assoc, List.take_left' List.length_append, List.map_append, hz, ho]

/-- **The runs chosen are those at the start of the pixels.** -/
theorem nextRuns_spec (px : Bytes) : Begins px (nextRuns px) := by
  obtain ⟨hz, hzl⟩ := takeWhile_take (· == 0) maxRun px
  have hzeros := map_lit_takeWhile_zero (px.take maxRun)
  unfold nextRuns
  dsimp only
  generalize (px.take maxRun).takeWhile (· == 0) = zeros at hz hzl hzeros
  obtain ⟨rest, rfl⟩ := hz
  rw [List.drop_left]
  split
  · have hones : List.map lit [] = List.replicate 0 1 := rfl
    exact begins_append hzeros hones hzl (Nat.zero_le _)
  · obtain ⟨ho, hol⟩ := takeWhile_take (· != 0) maxRun rest
    have hones := map_lit_takeWhile_ne (rest.take maxRun)
    generalize (rest.take maxRun).takeWhile (· != 0) = ones at ho hol hones
    obtain ⟨behind, rfl⟩ := ho
    exact begins_append hzeros hones hzl hol

theorem toNat_runs {r : Nat × Nat} (hz : r.1 ≤ maxRun) (ho : r.2 ≤ maxRun) :
    (UInt8.ofNat (r.1 * 16 + r.2)).toNat = r.1 * 16 + r.2 := by
  unfold maxRun at hz ho
  rw [UInt8.toNat_ofNat']
  omega

theorem decode1_cons {r : Nat × Nat} (hz : r.1 ≤ maxRun) (ho : r.2 ≤ maxRun) (bs : Bytes) :
    decode1 (UInt8.ofNat (r.1 * 16 + r.2) :: bs) = runs r ++ decode1 bs := by
  have hb := toNat_runs hz ho
  unfold maxRun at ho
  have hd : (r.1 * 16 + r.2) / 16 = r.1 := by omega
  have hm : (r.1 * 16 + r.2) % 16 = r.2 := by omega
  rw [decode1, List.flatMap_cons, hb, hd, hm]
  rfl

/-- The bytes have the pixels, as far as they keep them, and each byte has at least one. -/
structure Tells (bs px : Bytes) : Prop where
  pixels : decode1 bs = px.map lit
  short : bs.length ≤ px.length
  nonzero : 0 ∉ bs

theorem tells_cons {r : Nat × Nat} {bs px : Bytes} (hr : Begins px r) (hpos : 0 < r.1 + r.2)
    (hbs : Tells bs (px.drop (r.1 + r.2))) : Tells (UInt8.ofNat (r.1 * 16 + r.2) :: bs) px where
  pixels := by
    rw [decode1_cons hr.zeros hr.ones, hbs.pixels, hr.pixels, ← List.map_append,
      List.take_append_drop]
  short := by
    have hle := hr.le
    have hs := hbs.short
    rw [List.length_drop] at hs
    rw [List.length_cons]
    omega
  nonzero := by
    intro h
    rcases List.mem_cons.1 h with h | h
    · have hb := toNat_runs hr.zeros hr.ones
      rw [← h, UInt8.toNat_zero] at hb
      omega
    · exact hbs.nonzero h

theorem tells_encode1From (acc px : Bytes) :
    ∃ bs, encode1From acc px = acc.reverse ++ bs ∧ Tells bs px := by
  induction acc, px using encode1From.induct with
  | case1 acc => exact ⟨[], by rw [encode1From, List.append_nil], rfl, Nat.le_refl 0, List.not_mem_nil⟩
  | case2 acc p rest r ih =>
    obtain ⟨bs, hbs, ht⟩ := ih
    refine ⟨UInt8.ofNat (r.1 * 16 + r.2) :: bs, ?_,
      tells_cons (nextRuns_spec (p :: rest)) (nextRuns_pos p rest) ht⟩
    rw [encode1From, hbs, List.reverse_cons, List.append_assoc]
    rfl

theorem tells_encode1 (px : Bytes) : Tells (encode1 px) px := by
  obtain ⟨bs, hbs, ht⟩ := tells_encode1From [] px
  rw [encode1, hbs]
  exact ht

/-- **What is written in the one-bit code is read back**, as far as the code keeps it. -/
theorem decode1_encode1 (px : Bytes) : decode1 (encode1 px) = px.map lit := (tells_encode1 px).pixels

theorem length_encode1_le (px : Bytes) : (encode1 px).length ≤ px.length := (tells_encode1 px).short

/-- **What is written in the one-bit code is read back.** Take any pixels. The encoder is through after at
most as many bytes as there are pixels, none of them is zero, and decoding them gives the pixels with a one
for each that is not zero. -/
theorem one_bit_read_back (px : Bytes) :
    (encode1 px).length ≤ px.length ∧ (∀ b ∈ encode1 px, b ≠ 0) ∧
      decode1 (encode1 px) = px.map fun v => if v = 0 then 0 else 1 := by
  have ht := tells_encode1 px
  exact ⟨ht.short, fun b hb h => ht.nonzero (h ▸ hb), ht.pixels⟩

example : encode1 (List.replicate 20 0 ++ List.replicate 17 7) = [0xF0, 0x5F, 0x02] := by
  decide +kernel

end Seph.RunLength
