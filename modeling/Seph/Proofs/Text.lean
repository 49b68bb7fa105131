import Mathlib.Data.List.TakeWhile
import Seph.Text.Blank
import Seph.Text.Decimal

/-!
# Trimmed texts and numerals

What trimming and reading numbers give, without the loops that do it.

1. `trim_eq_iff`: a trimmed text is what stands between blanks and neither begins nor ends with one.
2. `parse_eq_ok_iff`: a number is read exactly from its numerals, if it is within the bound;
   `numeral_toString`: the usual way of writing it is one of them.
-/

namespace Seph

/-! ## Trimming -/

namespace Text

/-- A text stands between blanks, and neither begins nor ends with one. -/
def Trimmed (cs body : List Char) : Prop :=
  ∃ before after, cs = before ++ body ++ after ∧ (∀ c ∈ before, isBlank c) ∧ (∀ c ∈ after, isBlank c) ∧
    (∀ c, body.head? = some c → isBlank c = false) ∧ ∀ c, body.getLast? = some c → isBlank c = false

theorem trimStart_append {before cs : List Char} (h : ∀ c ∈ before, isBlank c) :
    trimStart (before ++ cs) = trimStart cs := List.dropWhile_append_of_pos h

theorem trimEnd_append {cs after : List Char} (h : ∀ c ∈ after, isBlank c) :
    trimEnd (cs ++ after) = trimEnd cs := by
  have hr : ∀ c ∈ after.reverse, isBlank c := fun c hc => h c (List.mem_reverse.1 hc)
  rw [trimEnd, trimEnd, List.reverse_append, List.dropWhile_append_of_pos hr]

theorem trimStart_of_head {cs : List Char} (h : ∀ c, cs.head? = some c → isBlank c = false) :
    trimStart cs = cs := by
  cases cs with
  | nil => rfl
  | cons c cs => exact List.dropWhile_cons_of_neg (by rw [h c rfl]; exact Bool.false_ne_true)

theorem trimEnd_of_getLast {cs : List Char} (h : ∀ c, cs.getLast? = some c → isBlank c = false) :
    trimEnd cs = cs := by
  have hr : trimStart cs.reverse = cs.reverse :=
    trimStart_of_head fun c hc => h c (by rwa [List.head?_reverse] at hc)
  rw [trimStart] at hr
  rw [trimEnd, hr, List.reverse_reverse]

theorem trim_of_trimmed {cs body : List Char} (h : Trimmed cs body) : trim cs = body := by
  obtain ⟨before, after, rfl, hb, ha, hfirst, hlast⟩ := h
  rw [trim, List.append_assoc, trimStart_append hb]
  cases body with
  | nil =>
    -- all of the text is blank
    have hs : trimStart after = [] := List.dropWhile_eq_nil_iff.2 ha
    rw [List.nil_append, hs]
    rfl
  | cons c body =>
    rw [trimStart_of_head (by simpa using hfirst), trimEnd_append ha, trimEnd_of_getLast hlast]

theorem trimmed_self {cs : List Char} (h : ∀ c ∈ cs, isBlank c = false) : Trimmed cs cs :=
  ⟨[], [], (List.append_nil _).symm, nofun, nofun, fun c hc => h c (List.mem_of_mem_head? hc),
    fun c hc => h c (List.mem_of_getLast? hc)⟩

theorem isBlank_of_isDigit {c : Char} (h : c.isDigit = true) : isBlank c = false := by
  have hr : ∀ r ∈ blanks, r.2 < 48 ∨ 57 < r.1 := by decide
  rw [Char.isDigit, Bool.and_eq_true, decide_eq_true_eq, decide_eq_true_eq, ge_iff_le,
    UInt32.le_iff_toNat_le, UInt32.le_iff_toNat_le] at h
  obtain ⟨h0 : 48 ≤ c.toNat, h9 : c.toNat ≤ 57⟩ := h
  rw [isBlank, List.any_eq_false]
  intro r hmem
  rw [Bool.and_eq_true, decide_eq_true_eq, decide_eq_true_eq]
  have := hr r hmem
  omega

theorem exists_trimStart (cs : List Char) :
    ∃ before, cs = before ++ trimStart cs ∧ (∀ c ∈ before, isBlank c) ∧
      ∀ c, (trimStart cs).head? = some c → isBlank c = false := by
  refine ⟨cs.takeWhile isBlank, List.takeWhile_append_dropWhile.symm, fun c hc => ?_, fun c hc => ?_⟩
  · exact List.mem_takeWhile_imp hc
  · have h := List.head?_dropWhile_not isBlank cs
    rw [trimStart] at hc
    rwa [hc] at h

theorem trimmed_trim (cs : List Char) : Trimmed cs (trim cs) := by
  obtain ⟨before, hcs, hb, hfirst⟩ := exists_trimStart cs
  obtain ⟨after, hrev, ha, hlast⟩ := exists_trimStart (trimStart cs).reverse
  have hend : trimStart cs = trim cs ++ after.reverse := by
    rw [← List.reverse_inj, List.reverse_append, List.reverse_reverse, trim, trimEnd,
      List.reverse_reverse]
    exact hrev
  refine ⟨before, after.reverse, ?_, hb, fun c hc => ha c (List.mem_reverse.1 hc), fun c hc => ?_,
    fun c hc => ?_⟩
  · rw [List.append_assoc, ← hend]
    exact hcs
  · refine hfirst c ?_
    rw [hend, List.head?_append, hc]
    rfl
  · refine hlast c ?_
    rw [trim, trimEnd, List.getLast?_reverse] at hc
    exact hc

/-- **Trimming leaves what stands between the blanks.** -/
theorem trim_eq_iff {cs body : List Char} : trim cs = body ↔ Trimmed cs body :=
  ⟨fun h => h ▸ trimmed_trim cs, trim_of_trimmed⟩

end Text

/-! ## Numerals -/

namespace Decimal

/-- A text is a numeral of a number: one or more digits that write it, perhaps behind one plus sign. -/
def Numeral (cs : List Char) (n : Nat) : Prop :=
  ∃ sign ds, cs = sign ++ ds ∧ (sign = [] ∨ sign = ['+']) ∧ ds ≠ [] ∧ (∀ c ∈ ds, c.isDigit) ∧
    n = Nat.ofDigitChars 10 ds 0

variable {bound n v : Nat} {cs : List Char}

theorem digit?_eq (c : Char) : digit? c = if c.isDigit then some (c.toNat - '0'.toNat) else none := by
  refine if_congr ?_ rfl rfl
  rw [Char.isDigit, Bool.and_eq_true, decide_eq_true_eq, decide_eq_true_eq]
  rfl

theorem le_ofDigitChars (n : Nat) (cs : List Char) : n ≤ Nat.ofDigitChars 10 cs n := by
  induction cs generalizing n with
  | nil => exact Nat.le_refl n
  | cons c cs ih =>
    rw [Nat.ofDigitChars_cons]
    have := ih (10 * n + (c.toNat - '0'.toNat))
    omega

/-- Digits are read as long as the number stays within the bound, so up to the last one if the number
that they write is within it. -/
theorem digits_eq_ok_iff (hn : n ≤ bound) :
    digits bound n cs = .ok v ↔ (∀ c ∈ cs, c.isDigit) ∧ v = Nat.ofDigitChars 10 cs n ∧ v ≤ bound := by
  induction cs generalizing n with
  | nil =>
    rw [digits, Except.ok.injEq]
    constructor
    · rintro rfl
      exact ⟨List.forall_mem_nil _, rfl, hn⟩
    · rintro ⟨-, rfl, -⟩
      rfl
  | cons c cs ih =>
    rw [digits, digit?_eq, Nat.ofDigitChars_cons, List.forall_mem_cons]
    by_cases hc : c.isDigit
    · rw [if_pos hc]
      dsimp only
      by_cases hb : 10 * n + (c.toNat - '0'.toNat) > bound
      · rw [if_pos hb]
        refine iff_of_false (by simp) ?_
        rintro ⟨-, rfl, hv⟩
        have := le_ofDigitChars (10 * n + (c.toNat - '0'.toNat)) cs
        omega
      · rw [if_neg hb, ih (Nat.le_of_not_lt hb), and_iff_right hc]
    · rw [if_neg hc]
      exact iff_of_false (by simp) fun h => hc h.1.1

/-- **A number is read from its numerals**, if it is within the bound. -/
theorem parse_eq_ok_iff : parse bound cs = .ok v ↔ Numeral cs v ∧ v ≤ bound := by
  have hd (ds : List Char) (hne : ds ≠ []) (sign : List Char) (hs : sign = [] ∨ sign = ['+'])
      (h : digits bound 0 ds = .ok v) : Numeral (sign ++ ds) v ∧ v ≤ bound := by
    obtain ⟨hall, hv, hb⟩ := (digits_eq_ok_iff (Nat.zero_le bound)).1 h
    exact ⟨⟨sign, ds, rfl, hs, hne, hall, hv⟩, hb⟩
  constructor
  · intro h
    unfold parse at h
    split at h
    · cases h
    · rename_i ds
      split at h
      · cases h
      · rename_i he
        exact hd ds (fun hn => he (by rw [hn]; rfl)) ['+'] (.inr rfl) h
    · rename_i ds hne _
      exact hd cs hne [] (.inl rfl) h
  · rintro ⟨⟨sign, ds, rfl, hs, hne, hall, hv⟩, hb⟩
    have h : digits bound 0 ds = .ok v := (digits_eq_ok_iff (Nat.zero_le bound)).2 ⟨hall, hv, hb⟩
    obtain ⟨c, ds, rfl⟩ := List.exists_cons_of_ne_nil hne
    rcases hs with rfl | rfl
    · have hplus : c ≠ '+' := by
        rintro rfl
        exact absurd (hall '+' List.mem_cons_self) (by decide)
      rw [List.nil_append, parse]
      · exact h
      · exact nofun
      · rintro cs' he
        exact hplus (List.cons.inj he).1
    · exact h

theorem numeral_toString (n : Nat) : Numeral (toString n).toList n := by
  refine ⟨[], Nat.toDigits 10 n, ?_, .inl rfl, Nat.toDigits_ne_nil, fun c hc => ?_,
    Nat.ofDigitChars_ten_toDigits.symm⟩
  · rw [Nat.toString_eq_ofList_toDigits, String.toList_ofList]
    rfl
  · exact Nat.isDigit_of_mem_toDigits (by decide) (by decide) hc

end Decimal
end Seph
