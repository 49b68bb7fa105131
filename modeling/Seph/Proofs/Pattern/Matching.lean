import Mathlib.Data.Nat.Bitwise
import Seph.Pattern.Basic

/-!
# What patterns match

What a pattern matches is told from the pattern alone: a match goes from a place of the text to a
place. Sets of places are what `Pattern.ends` computes with; here they are seen to hold the ends of
exactly the matches that begin in the set.

1. `Pattern.Matches`: the matches of a pattern in a text.
2. `Pattern.testBit_ends`: the ends that are computed are those of the matches.
3. `Pattern.isMatch_iff`, `Pattern.isMatch_textStart`: a text is accepted when it has a match, and by
   a pattern behind a look for its start when that pattern has a match there.

Repetitions are computed for no more rounds than a text has places. That is enough since a match ends
at the place where it begins or behind it (`Matches.ends_within`): of more repetitions than places one
ends where it begins, and can be left out or done twice (`Repeats.of_room_le`).
-/

namespace Seph

/-! ## Repetitions -/

/-- A step between places taken a number of times. -/
def Repeats (R : Nat → Nat → Prop) : Nat → Nat → Nat → Prop
  | 0, i, j => i = j
  | n + 1, i, j => ∃ k, R i k ∧ Repeats R n k j

namespace Repeats

variable {R : Nat → Nat → Prop} {i j k m n : Nat}

theorem one_iff : Repeats R 1 i j ↔ R i j :=
  ⟨fun ⟨_, h, hk⟩ => hk ▸ h, fun h => ⟨j, h, rfl⟩⟩

theorem add_iff : Repeats R (m + n) i j ↔ ∃ k, Repeats R m i k ∧ Repeats R n k j := by
  induction m generalizing i with
  | zero => rw [Nat.zero_add]; exact ⟨fun h => ⟨i, rfl, h⟩, fun ⟨_, hi, h⟩ => hi ▸ h⟩
  | succ m ih =>
    rw [Nat.succ_add]
    constructor
    · rintro ⟨l, hl, h⟩
      obtain ⟨k, hk, h⟩ := ih.1 h
      exact ⟨k, ⟨l, hl, hk⟩, h⟩
    · rintro ⟨k, ⟨l, hl, hk⟩, h⟩
      exact ⟨l, hl, ih.2 ⟨k, hk, h⟩⟩

theorem succ_iff : Repeats R (n + 1) i j ↔ ∃ k, Repeats R n i k ∧ R k j := by
  simp only [add_iff, one_iff]

/-- A step that never goes back does not go back when it is repeated. -/
theorem le (hR : ∀ i j, R i j → i ≤ j) (h : Repeats R n i j) : i ≤ j := by
  induction n generalizing i with
  | zero => exact Nat.le_of_eq h
  | succ n ih =>
    obtain ⟨k, hk, h⟩ := h
    exact (hR i k hk).trans (ih h)

/-- Of more repetitions than there are places to go on to, one can be left out. -/
theorem fewer (hR : ∀ i j, R i j → i ≤ j) (h : Repeats R (n + 1) i j) (hn : j - i ≤ n) :
    Repeats R n i j := by
  induction n generalizing i with
  | zero =>
    obtain ⟨k, hk, h⟩ := h
    have := hR i k hk
    cases h
    exact Nat.le_antisymm this (by omega)
  | succ n ih =>
    obtain ⟨k, hk, h⟩ := h
    rcases (hR i k hk).eq_or_lt with rfl | hlt
    · exact h
    · exact ⟨k, hk, ih h (by omega)⟩

/-- Of more repetitions than there are places to go on to, one can be done twice. -/
theorem further (hR : ∀ i j, R i j → i ≤ j) (h : Repeats R n i j) (hn : j - i < n) :
    Repeats R (n + 1) i j := by
  induction n generalizing i with
  | zero => omega
  | succ n ih =>
    have ⟨k, hk, hkj⟩ := h
    rcases (hR i k hk).eq_or_lt with rfl | hlt
    · exact ⟨i, hk, h⟩
    · have := hkj.le hR
      exact ⟨k, hk, ih hkj (by omega)⟩

/-- From a number of repetitions on that there are not so many places for, the number does not
matter. -/
theorem of_room_le (hR : ∀ i j, R i j → i ≤ j) {room : Nat} (hroom : j - i < room)
    (hm : room ≤ m) (hn : room ≤ n) (h : Repeats R m i j) : Repeats R n i j := by
  have down {k : Nat} (h : Repeats R (room + k) i j) : Repeats R room i j := by
    induction k with
    | zero => exact h
    | succ k ih =>
      have hk : j - i ≤ room + k := by omega
      exact ih (h.fewer hR hk)
  have up (k : Nat) (h : Repeats R room i j) : Repeats R (room + k) i j := by
    induction k with
    | zero => exact h
    | succ k ih =>
      have hk : j - i < room + k := by omega
      exact ih.further hR hk
  obtain ⟨m, rfl⟩ := Nat.exists_eq_add_of_le hm
  obtain ⟨n, rfl⟩ := Nat.exists_eq_add_of_le hn
  exact up n (down h)

end Repeats

/-! ## Matches -/

/-- The character before a place of a text. -/
def charBefore (text : List Char) : Nat → Option Char
  | 0 => none
  | i + 1 => text[i]?

namespace Pattern

/-- The pattern matches the piece of a text from place `i` to place `j`. A number of repetitions
`most` below `least` stands for `least`; no pattern is written so. -/
def Matches (text : List Char) : Pattern → Nat → Nat → Prop
  | empty, i, j => i = j
  | one s, i, j => (∃ c, text[i]? = some c ∧ s.contains c = true) ∧ j = i + 1
  | look l, i, j => (i ≤ text.length ∧ l.holds (charBefore text i) text[i]? = true) ∧ i = j
  | seq p q, i, j => ∃ k, Matches text p i k ∧ Matches text q k j
  | either p q, i, j => Matches text p i j ∨ Matches text q i j
  | times p least most, i, j =>
    ∃ n, least ≤ n ∧ (∀ m, most = some m → n ≤ max least m) ∧ Repeats (Matches text p) n i j

variable {text : List Char}

/-- A match ends where it begins, or behind that and within the text. -/
theorem Matches.ends_within {p : Pattern} {i j : Nat} (h : p.Matches text i j) :
    i = j ∨ i < j ∧ j ≤ text.length := by
  induction p generalizing i j with
  | empty => exact .inl h
  | one s =>
    obtain ⟨⟨c, hc, -⟩, rfl⟩ := h
    obtain ⟨hi, -⟩ := List.getElem?_eq_some_iff.1 hc
    omega
  | look l => exact .inl h.2
  | seq p q ihp ihq =>
    obtain ⟨k, hp, hq⟩ := h
    rcases ihp hp with rfl | hp <;> rcases ihq hq with rfl | hq <;> omega
  | either p q ihp ihq => exact h.elim ihp ihq
  | times p least most ih =>
    obtain ⟨n, -, -, h⟩ := h
    induction n generalizing i with
    | zero => exact .inl h
    | succ n ihn =>
      obtain ⟨k, hk, h⟩ := h
      rcases ih hk with rfl | hk <;> rcases ihn h with rfl | h <;> omega

theorem Matches.le {p : Pattern} (i j : Nat) (h : p.Matches text i j) : i ≤ j := by
  rcases h.ends_within with rfl | h <;> omega

/-! ## Places -/

theorem testBit_toNat_add (b : Bool) (n i : Nat) :
    (b.toNat + 2 * n).testBit i = match i with
      | 0 => b
      | i + 1 => n.testBit i := by
  cases i with
  | zero => cases b <;> simp [Nat.testBit_zero]
  | succ i =>
    have hdiv : (b.toNat + 2 * n) / 2 = n := by
      have := b.toNat_le
      omega
    simp [Nat.testBit_succ, hdiv]

theorem testBit_starts (s : CharSet) (i : Nat) :
    (starts s text).testBit i = true ↔ ∃ c, text[i]? = some c ∧ s.contains c = true := by
  induction text generalizing i with
  | nil => simp [starts]
  | cons c cs ih =>
    rw [starts, testBit_toNat_add]
    cases i with
    | zero => simp
    | succ i => simpa using ih i

theorem testBit_places (l : Look) (before : Option Char) (i : Nat) :
    (l.places before text).testBit i = true ↔
      i ≤ text.length ∧ l.holds (if i = 0 then before else text[i - 1]?) text[i]? = true := by
  induction text generalizing before i with
  | nil =>
    cases i with
    | zero => cases h : l.holds before none <;> simp [Look.places, h]
    | succ i => cases h : l.holds before none <;> simp [Look.places, h, Nat.testBit_succ]
  | cons c cs ih =>
    rw [Look.places, testBit_toNat_add]
    cases i with
    | zero => simp
    | succ i =>
      rw [ih]
      cases i <;> simp

theorem testBit_places_none (l : Look) (i : Nat) : (l.places none text).testBit i = true ↔
    i ≤ text.length ∧ l.holds (charBefore text i) text[i]? = true := by
  rw [testBit_places]
  cases i <;> simp [charBefore]

/-! ## Ends -/

theorem iterate_eq (f : Nat → Nat) (n s : Nat) : iterate f n s = f^[n] s := by
  induction n generalizing s with
  | zero => rfl
  | succ n ih =>
    rw [iterate, Function.iterate_succ_apply]
    by_cases h : f s = s
    · rw [if_pos h, h, Function.iterate_fixed h]
    · rw [if_neg h, ih]

section Rounds

variable {R : Nat → Nat → Prop} {f : Nat → Nat}

theorem exists_step_step {P S : Nat → Prop} :
    (∃ k, (∃ i, P i ∧ R i k) ∧ S k) ↔ ∃ i, P i ∧ ∃ k, R i k ∧ S k := by
  constructor
  · rintro ⟨k, ⟨i, hi, hk⟩, h⟩
    exact ⟨i, hi, k, hk, h⟩
  · rintro ⟨i, hi, k, hk, h⟩
    exact ⟨k, ⟨i, hi, hk⟩, h⟩

/-- A step on sets of places that follows `R`, taken `n` times. -/
theorem testBit_iterate (hf : ∀ s j, (f s).testBit j = true ↔ ∃ i, s.testBit i = true ∧ R i j)
    (n s j : Nat) : (f^[n] s).testBit j = true ↔ ∃ i, s.testBit i = true ∧ Repeats R n i j := by
  induction n generalizing j with
  | zero => exact ⟨fun h => ⟨j, h, rfl⟩, fun ⟨_, h, hi⟩ => hi ▸ h⟩
  | succ n ih =>
    rw [Function.iterate_succ_apply', hf]
    simp only [ih, Repeats.succ_iff, exists_step_step]

/-- A step on sets of places that also keeps the places, taken `n` times. -/
theorem testBit_iterate_or (hf : ∀ s j, (f s).testBit j = true ↔ ∃ i, s.testBit i = true ∧ R i j)
    (n s j : Nat) : ((fun t => t ||| f t)^[n] s).testBit j = true ↔
      ∃ i, s.testBit i = true ∧ ∃ k ≤ n, Repeats R k i j := by
  induction n generalizing j with
  | zero =>
    constructor
    · exact fun h => ⟨j, h, 0, Nat.le_refl 0, rfl⟩
    · rintro ⟨i, hi, k, hk, h⟩
      obtain rfl := Nat.le_zero.1 hk
      exact h ▸ hi
  | succ n ih =>
    rw [Function.iterate_succ_apply', Nat.testBit_or, Bool.or_eq_true, hf, ih]
    constructor
    · rintro (⟨i, hi, k, hk, h⟩ | ⟨l, hl, h⟩)
      · exact ⟨i, hi, k, Nat.le_succ_of_le hk, h⟩
      · obtain ⟨i, hi, k, hk, hkl⟩ := (ih l).1 hl
        exact ⟨i, hi, k + 1, Nat.succ_le_succ hk, Repeats.succ_iff.2 ⟨l, hkl, h⟩⟩
    · rintro ⟨i, hi, k, hk, h⟩
      rcases hk.eq_or_lt with rfl | hlt
      · obtain ⟨l, hl, h⟩ := Repeats.succ_iff.1 h
        exact .inr ⟨l, (ih l).2 ⟨i, hi, n, Nat.le_refl n, hl⟩, h⟩
      · exact .inl ⟨i, hi, k, Nat.le_of_lt_succ hlt, h⟩

end Rounds

/-- The rounds that are computed of a repetition reach what all numbers of repetitions reach. -/
theorem exists_rounds_iff (p : Pattern) (least : Nat) (most : Option Nat) (i j : Nat) :
    let room := text.length + 1
    let more := match most with
      | some m => min (m - least) room
      | none => room
    (∃ k, Repeats (p.Matches text) (min least room) i k ∧
      ∃ n ≤ more, Repeats (p.Matches text) n k j) ↔
      (times p least most).Matches text i j := by
  intro room more
  have reach {n : Nat} (h : Repeats (p.Matches text) n i j) : j - i < room := by
    have : (times p 0 none).Matches text i j := ⟨n, Nat.zero_le n, nofun, h⟩
    rcases this.ends_within with rfl | h <;> omega
  constructor
  · rintro ⟨k, first, n, hn, rest⟩
    have h : Repeats (p.Matches text) (min least room + n) i j := Repeats.add_iff.2 ⟨k, first, rest⟩
    refine ⟨least + n, Nat.le_add_right least n, ?_, ?_⟩
    · rintro m rfl
      have : n ≤ min (m - least) room := hn
      omega
    · by_cases hroom : least ≤ room
      · rwa [Nat.min_eq_left hroom] at h
      · exact h.of_room_le Matches.le (reach h) (by omega) (by omega)
  · rintro ⟨n, hleast, hmost, h⟩
    have hmore : min (n - least) room ≤ more := by
      cases most with
      | none => exact Nat.min_le_right _ _
      | some m =>
        have := hmost m rfl
        show min (n - least) room ≤ min (m - least) room
        omega
    have h' : Repeats (p.Matches text) (min least room + min (n - least) room) i j := by
      by_cases hroom : least ≤ room ∧ n - least ≤ room
      · rwa [show min least room + min (n - least) room = n by omega]
      · exact h.of_room_le Matches.le (reach h) (by omega) (by omega)
    obtain ⟨k, first, rest⟩ := Repeats.add_iff.1 h'
    exact ⟨k, first, _, hmore, rest⟩

/-- **The ends that are computed are those of the matches** that begin in a set of places. -/
theorem testBit_ends (p : Pattern) (s j : Nat) :
    (p.ends text s).testBit j = true ↔ ∃ i, s.testBit i = true ∧ p.Matches text i j := by
  induction p generalizing s j with
  | empty => exact ⟨fun h => ⟨j, h, rfl⟩, fun ⟨_, h, hi⟩ => hi ▸ h⟩
  | one c =>
    rw [ends, Nat.mul_comm, ← Nat.zero_add (2 * _), ← Bool.toNat_false, testBit_toNat_add]
    cases j with
    | zero => simp [Matches]
    | succ j =>
      simp only [Nat.testBit_and, Bool.and_eq_true, testBit_starts, Matches, Nat.succ.injEq]
      exact ⟨fun ⟨hs, hc⟩ => ⟨j, hs, hc, rfl⟩, fun ⟨_, hs, hc, hi⟩ => hi ▸ ⟨hs, hc⟩⟩
  | look l =>
    simp only [ends, Nat.testBit_and, Bool.and_eq_true, testBit_places_none, Matches]
    exact ⟨fun ⟨hs, hl⟩ => ⟨j, hs, hl, rfl⟩, fun ⟨_, hs, hl, hi⟩ => hi ▸ ⟨hs, hl⟩⟩
  | seq p q ihp ihq =>
    simp only [ends, ihp, ihq, Matches, exists_step_step]
  | either p q ihp ihq =>
    simp only [ends, Nat.testBit_or, Bool.or_eq_true, ihp, ihq, Matches, and_or_left, exists_or]
  | times p least most ih =>
    simp only [ends, iterate_eq]
    rw [testBit_iterate_or ih]
    simp only [testBit_iterate ih, ← exists_rounds_iff]
    exact exists_step_step

/-! ## Texts -/

/-- A text is accepted if some piece of it is matched. -/
theorem isMatch_iff (p : Pattern) (text : List Char) :
    p.isMatch text = true ↔ ∃ i ≤ text.length, ∃ j, p.Matches text i j := by
  have hplaces (i : Nat) : (everywhere text).testBit i = true ↔ i ≤ text.length := by
    rw [everywhere, Nat.pow_eq, Nat.testBit_two_pow_sub_one, decide_eq_true_iff, Nat.lt_succ_iff]
  have hne : p.isMatch text = true ↔ ∃ j, (p.ends text (everywhere text)).testBit j = true := by
    rw [isMatch, bne_iff_ne]
    exact ⟨Nat.exists_testBit_of_ne_zero, fun ⟨j, hj⟩ h => by simp [h] at hj⟩
  rw [hne]
  simp only [testBit_ends, hplaces]
  exact ⟨fun ⟨j, i, hi, h⟩ => ⟨i, hi, j, h⟩, fun ⟨i, hi, j, h⟩ => ⟨j, i, hi, h⟩⟩

/-- **Behind a look for the start of the text** a pattern accepts a text if it has a match there. -/
theorem isMatch_textStart (p : Pattern) (text : List Char) :
    (seq (look .textStart) p).isMatch text = true ↔ ∃ j, p.Matches text 0 j := by
  rw [isMatch_iff]
  constructor
  · rintro ⟨i, -, j, k, ⟨⟨hi, hl⟩, rfl⟩, h⟩
    cases i with
    | zero => exact ⟨j, h⟩
    | succ i =>
      have hbefore : charBefore text (i + 1) = some text[i] := List.getElem?_eq_getElem hi
      rw [hbefore] at hl
      cases hl
  · rintro ⟨j, h⟩
    exact ⟨0, Nat.zero_le _, j, 0, ⟨⟨Nat.zero_le _, rfl⟩, rfl⟩, h⟩

end Pattern
end Seph
