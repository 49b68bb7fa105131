import Seph.Proofs.Bytes
import Seph.Proofs.Display.Bitmap

/-!
# Pictures

A picture is seen through its values (`Picture.value`), whatever the order in which they are listed and
however they are packed.

1. `digits_spell`, `unpack_pack`: values that are packed from the highest bits of each byte are those
   that are unpacked, up to zeros behind them.
2. `Order.position_index`, `Order.exists_position`, `Order.index_of_position`: every point of a rectangle
   has one place in each order, and every place its point.
3. `Picture.value_scan`: the values of a matrix that are listed in an order are those of the matrix.
-/

namespace Seph

/-! ## Packing -/

/-- The number that values spell in a base, the first of them the most significant digit. -/
def spell (base : Nat) : Bytes → Nat
  | [] => 0
  | v :: vs => v.toNat * base ^ vs.length + spell base vs

section Spell

variable {base : Nat} {vs : Bytes}

theorem spell_lt (h : ∀ v ∈ vs, v.toNat < base) : spell base vs < base ^ vs.length := by
  induction vs with
  | nil => exact Nat.one_pos
  | cons v vs ih =>
    obtain ⟨hv, hvs⟩ := List.forall_mem_cons.1 h
    have hs := ih hvs
    have hm : (v.toNat + 1) * base ^ vs.length ≤ base * base ^ vs.length := Nat.mul_le_mul_right _ hv
    rw [Nat.succ_mul] at hm
    rw [spell, List.length_cons, Nat.pow_succ']
    omega

theorem digits_spell (h : ∀ v ∈ vs, v.toNat < base) :
    ((List.range vs.length).map fun k =>
      UInt8.ofNat (spell base vs / base ^ (vs.length - (k + 1)) % base)) = vs := by
  induction vs with
  | nil => rfl
  | cons v vs ih =>
    obtain ⟨hv, hvs⟩ := List.forall_mem_cons.1 h
    have hs := spell_lt hvs
    have hpos : 0 < base ^ vs.length := by omega
    rw [List.length_cons, List.range_succ_eq_map, List.map_cons, List.map_map]
    congr 1
    · have hd : (v.toNat * base ^ vs.length + spell base vs) / base ^ vs.length = v.toNat := by
        rw [Nat.mul_comm, Nat.mul_add_div hpos, Nat.div_eq_of_lt hs, Nat.add_zero]
      rw [spell, Nat.zero_add, Nat.add_sub_cancel, hd, Nat.mod_eq_of_lt hv, UInt8.ofNat_toNat]
    · refine Eq.trans (List.map_congr_left fun k hk => ?_) (ih hvs)
      -- the first digit stands above the others
      have hk : k < vs.length := List.mem_range.1 hk
      have hp : base ^ vs.length = base ^ (vs.length - (k + 1)) * (base * base ^ k) := by
        rw [← Nat.pow_succ', ← Nat.pow_add]
        congr 1
        omega
      have hsum : spell base (v :: vs) =
          spell base vs + base ^ (vs.length - (k + 1)) * (base * (base ^ k * v.toNat)) := by
        rw [spell, hp, Nat.add_comm, Nat.mul_comm v.toNat, Nat.mul_assoc, Nat.mul_assoc]
      have hq : 0 < base ^ (vs.length - (k + 1)) := by
        rw [hp] at hpos
        exact Nat.pos_of_mul_pos_right hpos
      show UInt8.ofNat (spell base (v :: vs) / base ^ (vs.length + 1 - (k + 1 + 1)) % base) = _
      rw [Nat.add_sub_add_right, hsum, Nat.add_mul_div_left _ _ hq, Nat.add_mul_mod_self_left]

end Spell

namespace Nbgl

/-- The number of pixels in a byte. -/
def Depth.perByte (d : Depth) : Nat := 8 / d.bits

/-- The values fit into the bits of a pixel. -/
def Depth.Fits (d : Depth) (vs : Bytes) : Prop := ∀ v ∈ vs, v.toNat < 2 ^ d.bits

/-- The byte of the values of its pixels. -/
def packByte (d : Depth) (vs : Bytes) : UInt8 := UInt8.ofNat (spell (2 ^ d.bits) vs)

/-- The values packed from the highest bits of each byte; the last byte is filled up with zeros. -/
def pack (d : Depth) (vs : Bytes) : Bytes :=
  ((vs.pieces d.perByte).map (Bytes.resize d.perByte)).map (packByte d)

section Pack

variable {d : Depth} {vs : Bytes}

theorem Depth.perByte_pos (d : Depth) : 0 < d.perByte := by cases d <;> decide

theorem Depth.bits_mul_perByte (d : Depth) : d.bits * d.perByte = 8 := by cases d <;> rfl

theorem highValues_packByte (h : d.Fits vs) (hl : vs.length = d.perByte) :
    highValues d.bits (packByte d vs) = vs := by
  have hb := d.bits_mul_perByte
  have hlt : spell (2 ^ d.bits) vs < 2 ^ 8 := by
    have := spell_lt h
    rwa [hl, ← Nat.pow_mul, hb] at this
  have hn : (packByte d vs).toNat = spell (2 ^ d.bits) vs := by
    rw [packByte, UInt8.toNat_ofNat', Nat.mod_eq_of_lt hlt]
  refine Eq.trans ?_ (digits_spell h)
  rw [highValues, hn, hl]
  refine List.map_congr_left fun k hk => ?_
  have hshift : 8 - d.bits * (k + 1) = d.bits * (d.perByte - (k + 1)) := by
    rw [Nat.mul_sub, hb]
  rw [Nat.shiftRight_eq_div_pow, hshift, Nat.pow_mul]
  rfl

theorem fits_resize (h : d.Fits vs) (n : Nat) : d.Fits (vs.resize n) := by
  intro v hv
  rcases List.mem_append.1 hv with hv | hv
  · exact h v (List.mem_of_mem_take hv)
  · rw [List.eq_of_mem_replicate hv]
    exact Nat.two_pow_pos d.bits

/-- **Packed values are unpacked**, with zeros behind them where they do not fill the last byte. -/
theorem unpack_pack (h : d.Fits vs) : ∃ n, unpack d (pack d vs) = vs ++ List.replicate n 0 := by
  refine ⟨_, Eq.trans ?_ (Bytes.flatten_map_resize_pieces d.perByte_pos vs)⟩
  rw [unpack, pack, List.flatMap_map, List.flatMap_def]
  congr 1
  refine (List.map_congr_left fun piece hp => ?_).trans (List.map_id _)
  obtain ⟨part, hmem, rfl⟩ := List.mem_map.1 hp
  have hpart : d.Fits part := fun v hv => h v (by
    rw [← Bytes.flatten_pieces d.perByte vs]
    exact List.mem_flatten.2 ⟨part, hmem, hv⟩)
  exact highValues_packByte (fits_resize hpart d.perByte) (Bytes.length_resize d.perByte part)

theorem length_pack (d : Depth) (vs : Bytes) : (pack d vs).length = d.packedSize vs.length := by
  rw [pack, List.length_map, List.length_map, Bytes.length_pieces d.perByte_pos, Depth.perByte,
    Depth.packedSize]
  cases d <;> simp only [Depth.bits] <;> omega

theorem Depth.packedSize_le (d : Depth) (n : Nat) : d.packedSize n ≤ n := by
  unfold packedSize
  cases d <;> simp only [bits] <;> omega

end Pack

/-! ## Orders -/

namespace Order

section Rectangle

variable (o : Order) {w h x y i : Nat}

/-- Every point has its place in the order. -/
theorem position_index (hx : x < w) (hy : y < h) :
    o.index w h x y < w * h ∧ o.position w h (o.index w h x y) = some (x, y) := by
  have hx' : w - 1 - (w - 1 - x) = x := by omega
  have hy' : h - 1 - (h - 1 - y) = y := by omega
  have below {a b : Nat} (ha : a < w) (hb : b < h) : a * h + b < w * h :=
    Nat.mul_comm h w ▸ Framebuffer.index_lt hb ha
  -- all but the last order go through columns
  have hlt : o.index w h x y < w * h := by
    cases o with
    | plain => exact below (by omega) hy
    | flipHorizontal => exact below hx hy
    | flipVertical => exact below (by omega) (by omega)
    | flipBoth => exact below hx (by omega)
    | rows => exact Framebuffer.index_lt hx hy
  refine ⟨hlt, ?_⟩
  unfold position
  rw [if_neg (Nat.not_le_of_lt hlt)]
  cases o with
  | plain =>
    obtain ⟨hd, hm⟩ := Framebuffer.index_div_mod (w - 1 - x) hy
    simp only [index, hd, hm, hx']
  | flipHorizontal =>
    obtain ⟨hd, hm⟩ := Framebuffer.index_div_mod x hy
    simp only [index, hd, hm]
  | flipVertical =>
    obtain ⟨hd, hm⟩ := Framebuffer.index_div_mod (w - 1 - x) (show h - 1 - y < h by omega)
    simp only [index, hd, hm, hx', hy']
  | flipBoth =>
    obtain ⟨hd, hm⟩ := Framebuffer.index_div_mod x (show h - 1 - y < h by omega)
    simp only [index, hd, hm, hy']
  | rows =>
    obtain ⟨hd, hm⟩ := Framebuffer.index_div_mod y hx
    simp only [index, hd, hm]

/-- Every place has its point. -/
theorem exists_position (hi : i < w * h) :
    ∃ x y, o.position w h i = some (x, y) ∧ x < w ∧ y < h := by
  have hw : 0 < w := Nat.pos_of_mul_pos_right (Nat.zero_lt_of_lt hi)
  have hh : 0 < h := Nat.pos_of_mul_pos_left (Nat.zero_lt_of_lt hi)
  have hc : i / h < w := (Nat.div_lt_iff_lt_mul hh).2 hi
  have hr : i / w < h := (Nat.div_lt_iff_lt_mul hw).2 (Nat.mul_comm w h ▸ hi)
  have hmw : i % w < w := Nat.mod_lt i hw
  have hmh : i % h < h := Nat.mod_lt i hh
  unfold position
  rw [if_neg (Nat.not_le_of_lt hi)]
  generalize i / h = c, i / w = r at hc hr
  cases o with
  | plain | flipHorizontal | flipVertical | flipBoth | rows =>
    exact ⟨_, _, rfl, by omega, by omega⟩

theorem index_of_position (hp : o.position w h i = some (x, y)) : o.index w h x y = i := by
  unfold position at hp
  split at hp
  · cases hp
  · rename_i hi
    have hi : i < w * h := by omega
    have hh : 0 < h := Nat.pos_of_mul_pos_left (Nat.zero_lt_of_lt hi)
    have hx : w - 1 - (w - 1 - i / h) = i / h :=
      Nat.sub_sub_self (Nat.le_sub_one_of_lt ((Nat.div_lt_iff_lt_mul hh).2 hi))
    have hy : h - 1 - (h - 1 - i % h) = i % h :=
      Nat.sub_sub_self (Nat.le_sub_one_of_lt (Nat.mod_lt i hh))
    obtain ⟨rfl, rfl⟩ := Prod.mk.inj (Option.some.inj hp)
    cases o with
    | plain => simp only [index, hx, Nat.div_add_mod']
    | flipHorizontal => simp only [index, Nat.div_add_mod']
    | flipVertical => simp only [index, hx, hy, Nat.div_add_mod']
    | flipBoth => simp only [index, hy, Nat.div_add_mod']
    | rows => simp only [index, Nat.div_add_mod']

/-- The value of a matrix at the point of a place. -/
def valueAt? (w h : Nat) (m : Nat → Nat → UInt8) (i : Nat) : Option UInt8 :=
  (o.position w h i).map fun (x, y) => m x y

/-- The values of a matrix in an order of its points. -/
def scan (w h : Nat) (m : Nat → Nat → UInt8) : Bytes :=
  (List.range (w * h)).filterMap (o.valueAt? w h m)

end Rectangle

section Scan

variable (o : Order) (w h : Nat) (m : Nat → Nat → UInt8)

theorem map_some_scan : (o.scan w h m).map some = (List.range (w * h)).map (o.valueAt? w h m) := by
  have all {l : List Nat} (hl : ∀ i ∈ l, i < w * h) :
      (l.filterMap (o.valueAt? w h m)).map some = l.map (o.valueAt? w h m) := by
    induction l with
    | nil => rfl
    | cons i l ih =>
      obtain ⟨hi, hl⟩ := List.forall_mem_cons.1 hl
      obtain ⟨x, y, hp, -⟩ := o.exists_position hi
      have hv : o.valueAt? w h m i = some (m x y) := by rw [valueAt?, hp]; rfl
      rw [List.filterMap_cons_some hv, List.map_cons, List.map_cons, ih hl, hv]
  exact all fun i => List.mem_range.1

theorem length_scan : (o.scan w h m).length = w * h := by
  have := congrArg List.length (map_some_scan o w h m)
  rwa [List.length_map, List.length_map, List.length_range] at this

variable {w h m}

theorem getElem?_scan {x y i : Nat} (hi : i < w * h) (hp : o.position w h i = some (x, y)) :
    (o.scan w h m)[i]? = some (m x y) := by
  have := congrArg (·[i]?) (map_some_scan o w h m)
  rw [List.getElem?_map, List.getElem?_map, List.getElem?_range hi, Option.map_some, valueAt?, hp]
    at this
  obtain ⟨v, hv, he⟩ := Option.map_eq_some_iff.1 this
  rw [hv]
  exact he

theorem exists_of_mem_scan {v : UInt8} (hv : v ∈ o.scan w h m) : ∃ x y, x < w ∧ y < h ∧ m x y = v := by
  obtain ⟨i, hi, hm⟩ := List.mem_filterMap.1 hv
  obtain ⟨x, y, hp, hx, hy⟩ := o.exists_position (List.mem_range.1 hi)
  rw [valueAt?, hp] at hm
  exact ⟨x, y, hx, hy, Option.some.inj hm⟩

end Scan

end Order

/-! ## Values -/

namespace Picture

variable {o : Order} {w h : Nat} {m : Nat → Nat → UInt8}

/-- **The values of a matrix that are listed in an order are those of the matrix**, whatever is listed
behind them. -/
theorem value_scan (fill : Bytes) {x y : Nat} (hx : x < w) (hy : y < h) :
    value ⟨w, h, o, (o.scan w h m ++ fill).toArray⟩ x y = m x y := by
  obtain ⟨hi, hp⟩ := o.position_index hx hy
  have hl : o.index w h x y < (o.scan w h m).length := by rwa [Order.length_scan]
  rw [value, Array.getD_eq_getD_getElem?, List.getElem?_toArray, List.getElem?_append_left hl,
    o.getElem?_scan hi hp]
  rfl

theorem bitmap_congr {p q : Picture} (hw : p.width = q.width) (hh : p.height = q.height)
    (hv : ∀ x y, x < p.width → y < p.height → p.value x y = q.value x y) : p.bitmap = q.bitmap := by
  rw [bitmap_eq, bitmap_eq, ← hw, ← hh, packPixels_inj_iff]
  intro x y hx hy
  rw [hv x y hx hy]

end Picture

end Nbgl
end Seph
