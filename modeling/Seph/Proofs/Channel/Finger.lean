import Seph.Channel.Finger
import Seph.Proofs.Text
import Seph.Proofs.Wire

/-!
# Lines of touches

Which lines the finger channel takes, and what it makes of them.

1. `Written`: a line writes numbers if it is their numerals, separated by commas, with blanks around
   the line and around each field. `Told`: three numbers tell of each touch.
2. `command_eq_ok_iff`: the touches of a line are those that its numbers tell of;
   `exists_told_iff`: numbers tell of touches if their count is a multiple of three.
3. `finger_lines_read_exactly`: with this the lines that are taken, what is made of them, and that a
   line of touches is read back.
-/

namespace Seph.FingerChannel

variable {cs : List Char} {line : String} {ns : List Nat} {ts : List Touch}

/-! ## Numbers of a line -/

theorem fields_eq_splitOn (cs : List Char) : fields cs = cs.splitOn ',' := by
  induction cs with
  | nil => rw [fields, List.splitOn_nil]
  | cons c cs ih =>
    rw [List.splitOn_eq_splitOnP] at ih
    rw [fields, List.splitOn_eq_splitOnP, List.splitOnP_cons_eq_if_modifyHead, ih]
    by_cases hc : c = ','
    · rw [if_pos hc, if_pos (beq_iff_eq.2 hc)]
    · rw [if_neg hc, if_neg (by rwa [beq_iff_eq])]
      obtain ⟨f, fs, hfs⟩ := List.exists_cons_of_ne_nil (List.splitOnP_ne_nil (· == ',') cs)
      rw [hfs]
      rfl

/-- A field, with blanks around it, is a numeral of a number of 16 bits. -/
def FieldOf (field : List Char) (n : Nat) : Prop :=
  ∃ numeral, Text.Trimmed field numeral ∧ Decimal.Numeral numeral n ∧ n ≤ 65535

/-- A line, with blanks around it, is the fields of numbers, separated by commas. -/
def Written (line : String) (numbers : List Nat) : Prop :=
  ∃ body, Text.Trimmed line.toList body ∧ List.Forall₂ FieldOf (body.splitOn ',') numbers

theorem parse_trim_eq_ok_iff {field : List Char} {n : Nat} :
    Decimal.parse 65535 (Text.trim field) = .ok n ↔ FieldOf field n := by
  rw [Decimal.parse_eq_ok_iff]
  constructor
  · intro h
    exact ⟨Text.trim field, Text.trimmed_trim field, h⟩
  · rintro ⟨numeral, ht, h⟩
    rwa [Text.trim_of_trimmed ht]

theorem numbers_eq_ok_iff :
    ((fields (Text.trim line.toList)).mapM fun f => Decimal.parse 65535 (Text.trim f)) = .ok ns ↔
      Written line ns := by
  rw [mapM_eq_ok_iff, fields_eq_splitOn]
  simp only [parse_trim_eq_ok_iff]
  constructor
  · intro h
    exact ⟨Text.trim line.toList, Text.trimmed_trim _, h⟩
  · rintro ⟨body, ht, h⟩
    rwa [Text.trim_of_trimmed ht]

theorem Written.length_pos (h : Written line ns) : 0 < ns.length := by
  obtain ⟨body, -, h⟩ := h
  rw [← h.length_eq, List.splitOn_eq_splitOnP]
  exact List.length_pos_iff.2 (List.splitOnP_ne_nil (· == ',') body)

theorem Written.le (h : Written line ns) : ∀ n ∈ ns, n ≤ 65535 := by
  obtain ⟨body, -, h⟩ := h
  intro n hn
  obtain ⟨i, hi, rfl⟩ := List.getElem_of_mem hn
  obtain ⟨numeral, -, -, hle⟩ := h.get (h.length_eq ▸ hi) hi
  exact hle

/-! ## Touches of numbers -/

/-- Three numbers tell of each touch: the point, and whether the finger is down. -/
inductive Told : List Nat → List Touch → Prop
  | nil : Told [] []
  | cons {t : Touch} {p : Nat} {ns : List Nat} {ts : List Touch} (down : t.pressed = true ↔ p ≠ 0)
      (rest : Told ns ts) : Told (t.x.toNat :: t.y.toNat :: p :: ns) (t :: ts)

theorem Told.length_eq (h : Told ns ts) : ns.length = 3 * ts.length := by
  induction h with
  | nil => rfl
  | cons _ _ ih =>
    simp only [List.length_cons, ih]
    omega

theorem Told.eq_nil_iff (h : Told ns ts) : ns = [] ↔ ts = [] := by
  rw [← List.length_eq_zero_iff, ← List.length_eq_zero_iff, h.length_eq]
  omega

theorem touches_eq_some_iff (hle : ∀ n ∈ ns, n ≤ 65535) : touches ns = some ts ↔ Told ns ts := by
  induction ns using touches.induct generalizing ts with
  | case1 =>
    rw [touches, Option.some.injEq]
    constructor
    · rintro rfl
      exact .nil
    · rintro ⟨⟩
      rfl
  | case2 x y p rest ih =>
    simp only [List.forall_mem_cons] at hle
    obtain ⟨hx, hy, -, hrest⟩ := hle
    have hx' : (UInt16.ofNat x).toNat = x := UInt16.toNat_ofNat_of_lt' (Nat.lt_succ_of_le hx)
    have hy' : (UInt16.ofNat y).toNat = y := UInt16.toNat_ofNat_of_lt' (Nat.lt_succ_of_le hy)
    rw [touches, Option.map_eq_some_iff]
    constructor
    · rintro ⟨ts, hts, rfl⟩
      have h := Told.cons (t := ⟨UInt16.ofNat x, UInt16.ofNat y, p != 0⟩) (p := p) bne_iff_ne
        ((ih hrest).1 hts)
      rwa [hx', hy'] at h
    · rintro ⟨⟩
      rename_i t ts down h
      refine ⟨ts, (ih hrest).2 h, ?_⟩
      have hp : (p != 0) = t.pressed := by rw [Bool.eq_iff_iff, bne_iff_ne, down]
      rw [UInt16.ofNat_toNat, UInt16.ofNat_toNat, hp]
  | case3 ns h0 h3 =>
    rw [touches.eq_3 ns h0 h3]
    refine iff_of_false nofun fun h => ?_
    cases h with
    | nil => exact h0 rfl
    | cons => exact h3 _ _ _ _ rfl

/-- Numbers of 16 bits tell of touches if their count is a multiple of three. -/
theorem exists_told_iff (hle : ∀ n ∈ ns, n ≤ 65535) : (∃ ts, Told ns ts) ↔ ∃ k, ns.length = 3 * k := by
  constructor
  · rintro ⟨ts, h⟩
    exact ⟨ts.length, h.length_eq⟩
  · rintro ⟨k, hk⟩
    simp only [← touches_eq_some_iff hle]
    clear hle
    induction ns using touches.induct generalizing k with
    | case1 => exact ⟨[], rfl⟩
    | case2 x y p rest ih =>
      obtain ⟨ts, hts⟩ := ih (k - 1) (by simp only [List.length_cons] at hk; omega)
      exact ⟨_, by rw [touches, hts]; rfl⟩
    | case3 ns h0 h3 =>
      match ns with
      | [] => exact absurd rfl h0
      | [_] | [_, _] => simp at hk; omega
      | x :: y :: p :: rest => exact absurd rfl (h3 x y p rest)

/-! ## Touches of a line -/

theorem command_eq_ok_iff : command line = .ok ts ↔ ∃ ns, Written line ns ∧ Told ns ts := by
  constructor
  · intro h
    unfold command at h
    split at h
    · cases h
    · rename_i ns hns
      have hw := numbers_eq_ok_iff.1 hns
      split at h
      · cases h
      · rename_i ts' hts
        cases h
        exact ⟨ns, hw, (touches_eq_some_iff hw.le).1 hts⟩
  · rintro ⟨ns, hw, ht⟩
    rw [command, numbers_eq_ok_iff.2 hw]
    dsimp only
    rw [(touches_eq_some_iff hw.le).2 ht]

/-! ## Lines of touches -/

/-- The numbers of touches as they are sent. -/
def numbers (ts : List Touch) : List Nat :=
  ts.flatMap fun t => [t.x.toNat, t.y.toNat, if t.pressed then 1 else 0]

theorem told_numbers (ts : List Touch) : Told (numbers ts) ts := by
  induction ts with
  | nil => exact .nil
  | cons t ts ih =>
    refine .cons ?_ ih
    cases t.pressed <;> decide

theorem encode_eq (ts : List Touch) : encode ts = ",".intercalate ((numbers ts).map toString) := by
  have ht (t : Touch) : [toString t.x.toNat, toString t.y.toNat, if t.pressed then "1" else "0"] =
      [t.x.toNat, t.y.toNat, if t.pressed then 1 else 0].map toString := by
    cases t.pressed <;> rfl
  rw [encode, numbers, List.map_flatMap]
  exact congrArg _ (congrArg (List.flatMap · ts) (funext ht))

theorem le_of_mem_numbers {n : Nat} (h : n ∈ numbers ts) : n ≤ 65535 := by
  obtain ⟨t, -, h⟩ := List.mem_flatMap.1 h
  have hx := t.x.toNat_lt
  have hy := t.y.toNat_lt
  simp only [List.mem_cons, List.not_mem_nil, or_false] at h
  obtain rfl | rfl | rfl := h
  · omega
  · omega
  · split <;> omega

theorem isDigit_of_mem_toString {n : Nat} {c : Char} (h : c ∈ (toString n).toList) : c.isDigit := by
  rw [Nat.toString_eq_ofList_toDigits, String.toList_ofList] at h
  exact Nat.isDigit_of_mem_toDigits (by decide) (by decide) h

theorem fieldOf_toString {n : Nat} (h : n ≤ 65535) : FieldOf (toString n).toList n :=
  ⟨(toString n).toList, Text.trimmed_self fun _ hc => Text.isBlank_of_isDigit (isDigit_of_mem_toString hc),
    Decimal.numeral_toString n, h⟩

theorem mem_intercalate_comma {xss : List (List Char)} {c : Char} (h : c ∈ [','].intercalate xss) :
    c = ',' ∨ ∃ xs ∈ xss, c ∈ xs := by
  induction xss with
  | nil => cases h
  | cons xs xss ih =>
    by_cases hne : xss = []
    · rw [hne, List.intercalate_singleton] at h
      exact .inr ⟨xs, List.mem_cons_self, h⟩
    · rw [List.intercalate_cons_of_ne_nil hne, List.append_assoc, List.mem_append, List.mem_append,
        List.mem_singleton] at h
      rcases h with h | h | h
      · exact .inr ⟨xs, List.mem_cons_self, h⟩
      · exact .inl h
      · exact (ih h).imp id fun ⟨ys, hys, hc⟩ => ⟨ys, List.mem_cons_of_mem xs hys, hc⟩

theorem written_encode (h : ts ≠ []) : Written (encode ts) (numbers ts) := by
  have hlist : (encode ts).toList = [','].intercalate ((numbers ts).map fun n => (toString n).toList) := by
    rw [encode_eq, String.toList_intercalate, List.map_map]
    rfl
  have hne : numbers ts ≠ [] := (told_numbers ts).eq_nil_iff.not.2 h
  refine ⟨(encode ts).toList, Text.trimmed_self fun c hc => ?_, ?_⟩
  · rw [hlist] at hc
    rcases mem_intercalate_comma hc with rfl | ⟨xs, hxs, hc⟩
    · decide
    · obtain ⟨n, -, rfl⟩ := List.mem_map.1 hxs
      exact Text.isBlank_of_isDigit (isDigit_of_mem_toString hc)
  · rw [hlist, List.splitOn_intercalate]
    · rw [List.forall₂_map_left_iff, List.forall₂_same]
      exact fun n hn => fieldOf_toString (le_of_mem_numbers hn)
    · intro xs hxs hc
      obtain ⟨n, -, rfl⟩ := List.mem_map.1 hxs
      exact absurd (isDigit_of_mem_toString hc) (by decide)
    · rwa [ne_eq, List.map_eq_nil_iff]

/-- **Lines of touches are read exactly.** A line is taken if it is the numerals of numbers of 16 bits
whose count is a positive multiple of three, and nothing else is; it gives the touches that the
numbers tell of, three for each. In particular a line of touches as it is sent gives them back. -/
theorem finger_lines_read_exactly :
    (∀ line, (∃ ts, command line = .ok ts) ↔
      ∃ ns k, Written line ns ∧ 1 ≤ k ∧ ns.length = 3 * k) ∧
    (∀ line ts, command line = .ok ts ↔ ∃ ns, Written line ns ∧ Told ns ts) ∧
    ∀ ts, ts ≠ [] → command (encode ts) = .ok ts := by
  refine ⟨fun line => ?_, fun line ts => command_eq_ok_iff, fun ts h => ?_⟩
  · simp only [command_eq_ok_iff]
    constructor
    · rintro ⟨ts, ns, hw, ht⟩
      have hpos := hw.length_pos
      have hlen := ht.length_eq
      exact ⟨ns, ts.length, hw, by omega, hlen⟩
    · rintro ⟨ns, k, hw, -, hlen⟩
      obtain ⟨ts, ht⟩ := (exists_told_iff hw.le).2 ⟨k, hlen⟩
      exact ⟨ts, ns, hw, ht⟩
  · exact command_eq_ok_iff.2 ⟨numbers ts, written_encode h, told_numbers ts⟩

theorem finger_lines_read_exactly_of_drag :
    [⟨10, 20, true⟩, ⟨12, 300, false⟩] ≠ ([] : List Touch) ∧
      command (encode [⟨10, 20, true⟩, ⟨12, 300, false⟩]) =
        .ok [⟨10, 20, true⟩, ⟨12, 300, false⟩] :=
  ⟨by decide, finger_lines_read_exactly.2.2 _ (by decide)⟩

end Seph.FingerChannel
