import Seph.Pattern.Syntax

/-!
# Signs before a closing parenthesis

A pattern can be read alone or with a closing parenthesis behind it. What is read of a sign, a count
or a name is the same, or else the parenthesis was taken for a part of it, so that nothing is left
(`Kept`). Each reader has one lemma that says so; it also says that what is left is no longer than what
there was.

One reader looks further than the sign it reads: braces behind `\b` that end too early are an error
alone, and are left for the next sign when a parenthesis follows (`IsOpenBrace`).

1. `skip_close`: blanks and comments before a sign.
2. `kept_escape?`: what is written behind a backslash.
-/

namespace Seph.Pattern

open Seph.Text (isBlank)

/-- The parenthesis behind the text `cs` is still there in `rest`. What stands before it, no more than the
text, is as `P` says. -/
def Leaves (cs rest : List Char) (P : List Char → Prop) : Prop :=
  ∃ left, rest = left ++ [')'] ∧ left.length ≤ cs.length ∧ P left

namespace Leaves

variable {cs ds rest : List Char} {P Q : List Char → Prop}

theorem weaken (h : Leaves ds rest P) (hl : ds.length ≤ cs.length) : Leaves cs rest P :=
  let ⟨left, hrest, hle, hP⟩ := h
  ⟨left, hrest, Nat.le_trans hle hl, hP⟩

theorem imp (h : Leaves cs rest P) (hPQ : ∀ left, P left → Q left) : Leaves cs rest Q :=
  let ⟨left, hrest, hle, hP⟩ := h
  ⟨left, hrest, hle, hPQ left hP⟩

end Leaves

/-- What is read with a closing parenthesis behind the text `cs`, `closed`, is what is read of the text
alone, `alone`, and the parenthesis is left; or nothing is left. -/
def Kept (cs : List Char) (alone closed : Option (α × List Char)) : Prop :=
  ∀ a rest, closed = some (a, rest) → rest = [] ∨ Leaves cs rest fun left => alone = some (a, left)

namespace Kept

variable {cs ds : List Char} {alone closed : Option (α × List Char)}

theorem none : Kept cs alone none := nofun

theorem left {a : α} (h : ds.length ≤ cs.length) :
    Kept cs (some (a, ds)) (some (a, ds ++ [')'])) := by
  rintro _ _ ⟨⟩
  exact .inr ⟨ds, rfl, h, rfl⟩

theorem nil {a : α} : Kept cs alone (some (a, [])) := by
  rintro _ _ ⟨⟩
  exact .inl rfl

theorem weaken (h : Kept ds alone closed) (hl : ds.length ≤ cs.length) : Kept cs alone closed := by
  intro a rest hr
  exact (h a rest hr).imp_right (·.weaken hl)

theorem refine (h : Kept cs alone closed) (k : α → Option β) :
    Kept cs (alone.bind fun r => (k r.1).map (·, r.2)) (closed.bind fun r => (k r.1).map (·, r.2)) := by
  intro b rest hr
  obtain ⟨⟨a, r⟩, hc, hb⟩ := Option.bind_eq_some_iff.1 hr
  obtain ⟨b', hk, hb⟩ := Option.map_eq_some_iff.1 hb
  cases hb
  refine (h a r hc).imp_right (·.imp fun left ha => ?_)
  rw [ha]
  exact congrArg (Option.map (·, left)) hk

theorem map (h : Kept cs alone closed) (g : α → β) :
    Kept cs (alone.map fun r => (g r.1, r.2)) (closed.map fun r => (g r.1, r.2)) := by
  intro b rest hr
  obtain ⟨⟨a, r⟩, hc, hb⟩ := Option.map_eq_some_iff.1 hr
  cases hb
  refine (h a r hc).imp_right (·.imp fun left ha => ?_)
  rw [ha]
  rfl

end Kept

/-! ## Blanks and comments -/

theorem dropBlanks_close (inComment : Bool) (cs : List Char) :
    dropBlanks inComment (cs ++ [')']) = dropBlanks inComment cs ++ [')'] ∨
      dropBlanks inComment cs = [] ∧ dropBlanks inComment (cs ++ [')']) = [] := by
  induction cs generalizing inComment with
  | nil => cases inComment <;> decide
  | cons c cs ih =>
    cases inComment with
    | true => exact ih _
    | false =>
      simp only [List.cons_append, dropBlanks]
      split
      · exact ih _
      · split
        · exact ih _
        · exact .inl rfl

/-- A parenthesis is a sign, unless it stands in a comment. -/
theorem skip_close (f : Flags) (cs : List Char) : skip f (cs ++ [')']) = skip f cs ++ [')'] ∨
    skip f cs = [] ∧ skip f (cs ++ [')']) = [] := by
  unfold skip
  split
  · exact dropBlanks_close false cs
  · exact .inl rfl

theorem length_skip_le (f : Flags) (cs : List Char) : (skip f cs).length ≤ cs.length := by
  have length_dropBlanks_le (inComment : Bool) : (dropBlanks inComment cs).length ≤ cs.length := by
    induction cs generalizing inComment with
    | nil => cases inComment <;> exact Nat.le_refl _
    | cons c cs ih =>
      cases inComment with
      | true => exact Nat.le_succ_of_le (ih _)
      | false =>
        simp only [dropBlanks]
        split
        · exact Nat.le_succ_of_le (ih _)
        · split
          · exact Nat.le_succ_of_le (ih _)
          · exact Nat.le_refl _
  unfold skip
  split
  · exact length_dropBlanks_le false
  · exact Nat.le_refl _

@[simp] theorem skip_nil (f : Flags) : skip f [] = [] := by
  unfold skip
  split <;> rfl

theorem skip_cons (f : Flags) {c : Char} (hb : isBlank c = false) (hc : c ≠ '#') (cs : List Char) :
    skip f (c :: cs) = c :: cs := by
  unfold skip
  split
  · simp [dropBlanks, hb, hc]
  · rfl

theorem dropWhile_isBlank_close (cs : List Char) :
    (cs ++ [')']).dropWhile isBlank = cs.dropWhile isBlank ++ [')'] := by
  rw [List.dropWhile_append]
  split
  · next h =>
    rw [List.isEmpty_iff.1 h]
    decide
  · rfl

/-- Up to a character that is no parenthesis: it is there before the parenthesis or nowhere. -/
theorem dropWhile_close {p : Char → Bool} (hp : p ')' = true) (cs : List Char) :
    cs.dropWhile p = [] ∧ (cs ++ [')']).dropWhile p = [] ∨
      (cs ++ [')']).dropWhile p = cs.dropWhile p ++ [')'] ∧ (cs ++ [')']).takeWhile p = cs.takeWhile p := by
  induction cs with
  | nil => exact .inl ⟨rfl, List.dropWhile_cons_of_pos hp⟩
  | cons c cs ih =>
    by_cases hc : p c = true
    · simpa [List.dropWhile_cons_of_pos hc, List.takeWhile_cons_of_pos hc] using ih
    · exact .inr (by simp [hc])

@[simp] theorem isSkipped_close (f : Flags) : isSkipped f ')' = false := by
  have : isBlank ')' = false := by decide
  simp [isSkipped, this]

/-! ## Names and digits -/

/-- Braces end before the parenthesis or are not closed. -/
theorem upToBrace?_close (f : Flags) (inComment : Bool) (acc cs : List Char) :
    upToBrace? f inComment acc (cs ++ [')']) =
      (upToBrace? f inComment acc cs).map fun r => (r.1, r.2 ++ [')']) := by
  induction cs generalizing inComment acc with
  | nil => cases inComment <;> simp [upToBrace?]
  | cons c cs ih =>
    cases inComment with
    | true => exact ih _ _
    | false =>
      simp only [List.cons_append, upToBrace?]
      split
      · exact ih _ _
      · split
        · rfl
        · exact ih _ _

theorem length_of_upToBrace? {f : Flags} {inComment : Bool} {acc cs ds rest : List Char}
    (h : upToBrace? f inComment acc cs = some (ds, rest)) : rest.length ≤ cs.length := by
  induction cs generalizing inComment acc with
  | nil => cases inComment <;> cases h
  | cons c cs ih =>
    cases inComment with
    | true => exact Nat.le_succ_of_le (ih h)
    | false =>
      simp only [upToBrace?] at h
      split at h
      · exact Nat.le_succ_of_le (ih h)
      · split at h
        · cases h
          exact Nat.le_succ _
        · exact Nat.le_succ_of_le (ih h)

theorem kept_upToBrace? (f : Flags) (inComment : Bool) (acc cs : List Char) :
    Kept cs (upToBrace? f inComment acc cs) (upToBrace? f inComment acc (cs ++ [')'])) := by
  rw [upToBrace?_close]
  cases h : upToBrace? f inComment acc cs with
  | none => exact .none
  | some r => exact .left (length_of_upToBrace? h)

theorem kept_take? (f : Flags) (inComment : Bool) (n : Nat) (acc cs : List Char) :
    Kept cs (take? f inComment n acc cs) (take? f inComment n acc (cs ++ [')'])) := by
  induction cs generalizing inComment n acc with
  | nil =>
    cases n with
    | zero => cases inComment <;> exact .left (Nat.le_refl _)
    | succ n =>
      cases inComment with
      | true => exact .none
      | false =>
        simp only [List.nil_append, take?, isSkipped_close, Bool.false_eq_true, if_false]
        cases n with
        | zero => exact .nil
        | succ n => exact .none
  | cons c cs ih =>
    cases n with
    | zero => cases inComment <;> exact .left (Nat.le_refl _)
    | succ n =>
      cases inComment with
      | true => exact (ih _ _ _).weaken (Nat.le_succ _)
      | false =>
        simp only [List.cons_append, take?]
        split
        · exact (ih _ _ _).weaken (Nat.le_succ _)
        · exact (ih _ _ _).weaken (Nat.le_succ _)

/-- The parenthesis is no digit; it is left out only in a comment. -/
theorem takeDigits_close (f : Flags) (inComment : Bool) (acc cs : List Char) :
    let alone := takeDigits f inComment acc cs
    let closed := takeDigits f inComment acc (cs ++ [')'])
    alone.2.length ≤ cs.length ∧ closed.1 = alone.1 ∧
      (closed.2 = [] ∨ closed.2 = alone.2 ++ [')']) := by
  induction cs generalizing inComment acc with
  | nil => cases inComment <;> simp [takeDigits]
  | cons c cs ih =>
    cases inComment with
    | true => exact ⟨Nat.le_succ_of_le (ih _ _).1, (ih _ _).2⟩
    | false =>
      simp only [List.cons_append, takeDigits]
      split
      · exact ⟨Nat.le_succ_of_le (ih _ _).1, (ih _ _).2⟩
      · split
        · exact ⟨Nat.le_succ_of_le (ih _ _).1, (ih _ _).2⟩
        · exact ⟨Nat.le_refl _, rfl, .inr rfl⟩

/-! ## Escapes -/

theorem exists_of_close_eq {c : Char} (hc : c ≠ ')') {cs ds : List Char} (h : cs ++ [')'] = c :: ds) :
    ∃ left, cs = c :: left ∧ ds = left ++ [')'] := by
  cases cs with
  | nil => exact absurd (List.cons.inj h).1.symm hc
  | cons d cs =>
    cases h
    exact ⟨cs, rfl, rfl⟩

theorem close_ne_cons {c : Char} (hc : c ≠ ')') {ds : List Char} (h : ∀ left, ds ≠ c :: left)
    (left : List Char) : ds ++ [')'] ≠ c :: left := by
  intro heq
  obtain ⟨left, hl, -⟩ := exists_of_close_eq hc heq
  exact h left hl

/-- The character that the digits in braces write. -/
def charOfBraced? (ds : List Char) : Option Char :=
  if ds.isEmpty || !ds.all isHex then none else charOf? (numeral 16 ds)

/-- The character that a fixed number of digits write. -/
def charOfDigits? (f : Flags) (digits : Nat) (ds : List Char) : Option Char :=
  if !ds.all isHex then none
  else (charOf? (numeral 16 ds)).bind fun c =>
    if !f.unicode && digits == 2 && c.toNat ≥ 128 then none else some c

section Hex

variable {f : Flags} {digits : Nat} {cs : List Char}

theorem hexChar?_braced {ds : List Char} (h : skip f cs = '\x7b' :: ds) : hexChar? f digits cs =
    (upToBrace? f false [] ds).bind fun r => (charOfBraced? r.1).map (·, r.2) := by
  simp only [hexChar?, h]
  refine congrArg (Option.bind _) (funext fun r => ?_)
  unfold charOfBraced?
  split
  · rfl
  · cases charOf? (numeral 16 r.1) <;> rfl

theorem hexChar?_digits (h : ∀ ds, skip f cs ≠ '\x7b' :: ds) : hexChar? f digits cs =
    (take? f false digits [] (skip f cs)).bind fun r => (charOfDigits? f digits r.1).map (·, r.2) := by
  rw [hexChar?]
  split
  next ds hd => exact absurd hd (h ds)
  refine congrArg (Option.bind _) (funext fun r => ?_)
  dsimp only
  unfold charOfDigits?
  split
  · rfl
  · cases charOf? (numeral 16 r.1) with
    | none => rfl
    | some c =>
      show (if _ then _ else _) = Option.map _ (if _ then _ else _)
      split <;> rfl

end Hex

theorem kept_hexChar? (f : Flags) (digits : Nat) (cs : List Char) :
    Kept cs (hexChar? f digits cs) (hexChar? f digits (cs ++ [')'])) := by
  have hlen := length_skip_le f cs
  by_cases hb : ∃ ds, skip f cs = '\x7b' :: ds
  · obtain ⟨ds, hb⟩ := hb
    rw [hb] at hlen
    have h : skip f (cs ++ [')']) = '\x7b' :: (ds ++ [')']) := by
      rcases skip_close f cs with h | ⟨h, -⟩
      · rw [h, hb]; rfl
      · rw [hb] at h; cases h
    rw [hexChar?_braced hb, hexChar?_braced h]
    exact ((kept_upToBrace? f false [] ds).refine charOfBraced?).weaken (Nat.le_of_succ_le hlen)
  · have hb' := not_exists.1 hb
    rcases skip_close f cs with h | ⟨h, h'⟩
    · rw [hexChar?_digits hb', hexChar?_digits (h ▸ close_ne_cons (by decide) hb'), h]
      exact ((kept_take? f false digits [] _).refine (charOfDigits? f digits)).weaken hlen
    · rw [hexChar?_digits hb', hexChar?_digits (by simp [h']), h, h']
      refine Kept.refine ?_ (charOfDigits? f digits)
      cases digits with
      | zero => exact .nil
      | succ n => exact .none

/-- The property behind `\p`: one letter, or a name in braces. -/
def property? (f : Flags) : List Char → Option (CharSet × List Char)
  | [] => none
  | '\x7b' :: cs => (upToBrace? f false [] cs).bind fun r => (classByName? r.1).map (·, r.2)
  | '\\' :: _ => none
  | c :: cs => (Named.set? [c]).map (·, cs)

theorem property?_letter (f : Flags) {c : Char} (hb : c ≠ '\x7b') (hs : c ≠ '\\') (cs : List Char) :
    property? f (c :: cs) = (Named.set? [c]).map (·, cs) := property?.eq_4 f c cs hb hs

theorem propertySet?_eq (f : Flags) (negated : Bool) (cs : List Char) : propertySet? f negated cs =
    if !f.unicode then none
    else (property? f (skip f cs)).bind fun r => (negate? f negated (foldSet f r.1)).map (·, r.2) := by
  have hset (s : CharSet) (rest : List Char) :
      (do return (← negate? f negated (foldSet f s), rest)) =
        (negate? f negated (foldSet f s)).map (·, rest) := by
    cases negate? f negated (foldSet f s) <;> rfl
  unfold propertySet?
  cases f.unicode with
  | false => rfl
  | true =>
    simp only [hset, Bool.not_true, Bool.false_eq_true, if_false]
    split
    · next h => rw [h]; rfl
    · next ds h =>
      simp only [h, property?]
      cases upToBrace? f false [] ds with
      | none => rfl
      | some r => cases h : classByName? r.1 <;> simp [h]
    · next h => rw [h]; rfl
    · next c ds hbrace hslash h =>
      rw [h, property?_letter f hbrace hslash]
      cases Named.set? [c] <;> rfl

theorem kept_property? (f : Flags) (cs : List Char) :
    Kept cs (property? f cs) (property? f (cs ++ [')'])) := by
  cases cs with
  | nil =>
    show Kept [] none ((Named.set? [')']).map (·, []))
    cases Named.set? [')'] with
    | none => exact .none
    | some s => exact .nil
  | cons c cs =>
    by_cases hb : c = '\x7b'
    · cases hb
      exact ((kept_upToBrace? f false [] cs).refine classByName?).weaken (Nat.le_succ _)
    by_cases hs : c = '\\'
    · cases hs
      exact .none
    rw [List.cons_append, property?_letter f hb hs, property?_letter f hb hs]
    cases Named.set? [c] with
    | none => exact .none
    | some s => exact .left (Nat.le_succ cs.length)

theorem kept_propertySet? (f : Flags) (negated : Bool) (cs : List Char) :
    Kept cs (propertySet? f negated cs) (propertySet? f negated (cs ++ [')'])) := by
  rw [propertySet?_eq, propertySet?_eq]
  split
  · exact .none
  · refine Kept.refine ?_ fun s => negate? f negated (foldSet f s)
    rcases skip_close f cs with h | ⟨h, h'⟩
    · rw [h]
      exact (kept_property? f _).weaken (length_skip_le f cs)
    · rw [h']
      exact .none

/-- Braces behind `\b` in which nothing but the parenthesis stands. -/
def IsOpenBrace (f : Flags) (rest : List Char) : Prop :=
  ∃ inner, rest = '\x7b' :: inner ∧ skip f inner = [')']

theorem kept_wordLook? (f : Flags) (cs : List Char) :
    Kept cs (wordLook? f cs) (wordLook? f (cs ++ [')'])) ∨
      ∃ rest, wordLook? f (cs ++ [')']) = some (.edge, rest) ∧ IsOpenBrace f rest := by
  by_cases hb : ∃ inner, cs = '\x7b' :: inner
  · obtain ⟨inner, rfl⟩ := hb
    simp only [List.cons_append, wordLook?]
    rcases skip_close f inner with h | ⟨-, h⟩
    · cases hi : skip f inner with
      | nil =>
        rw [hi, List.nil_append] at h
        rw [h]
        exact .inr ⟨_, rfl, inner ++ [')'], rfl, h⟩
      | cons c ds =>
        -- The braces hold a sign of the text itself, so the parenthesis is not looked at.
        rw [h, hi]
        refine .inl ?_
        dsimp only [List.cons_append]
        split
        · exact .left (Nat.le_refl _)
        · rw [upToBrace?_close]
          cases hu : upToBrace? f false [] inner with
          | none => exact .none
          | some r =>
            have hle : r.2.length ≤ ('\x7b' :: inner).length :=
              Nat.le_succ_of_le (length_of_upToBrace? hu)
            dsimp only [Option.map_some]
            split
            any_goals exact .left hle
            exact .none
    · rw [h]
      exact .inl .none
  · have hedge {ds : List Char} (h : ∀ inner, ds ≠ '\x7b' :: inner) :
        wordLook? f ds = some (.edge, ds) := by
      unfold wordLook?
      split
      · next inner => exact absurd rfl (h inner)
      · rfl
    have hb' := not_exists.1 hb
    rw [hedge hb', hedge (close_ne_cons (by decide) hb')]
    exact .inl (.left (Nat.le_refl _))

/-- **An escape is read the same before the parenthesis**, unless it ends with braces that are left for
the next sign. -/
theorem kept_escape? (f : Flags) (cs : List Char) :
    Kept cs (escape? f cs) (escape? f (cs ++ [')'])) ∨
      ∃ l rest, escape? f (cs ++ [')']) = some (.look l, rest) ∧ IsOpenBrace f rest := by
  have hleft {c : Char} {ds : List Char} (g : Sign) :
      Kept (c :: ds) (some (g, ds)) (some (g, ds ++ [')'])) := .left (Nat.le_succ _)
  have hset {c : Char} {ds : List Char} (s? : Option CharSet) :
      Kept (c :: ds) (s?.map fun s => (Sign.set s, ds)) (s?.map fun s => (Sign.set s, ds ++ [')'])) := by
    cases s? with
    | none => exact .none
    | some s => exact hleft (.set s)
  cases cs with
  | nil => exact .inl .nil
  | cons c cs =>
    have hle : cs.length ≤ (c :: cs).length := Nat.le_succ _
    simp only [List.cons_append, escape?]
    split
    · exact .inl (((kept_hexChar? f 2 cs).map Sign.char).weaken hle)
    · exact .inl (((kept_hexChar? f 4 cs).map Sign.char).weaken hle)
    · exact .inl (((kept_hexChar? f 8 cs).map Sign.char).weaken hle)
    · exact .inl (((kept_propertySet? f false cs).map Sign.set).weaken hle)
    · exact .inl (((kept_propertySet? f true cs).map Sign.set).weaken hle)
    any_goals exact .inl (hset _)
    any_goals exact .inl (hleft _)
    · rcases kept_wordLook? f cs with h | ⟨rest, h, hr⟩
      · exact .inl ((h.map fun k => Sign.look (.word (!f.unicode) k)).weaken hle)
      · rw [h]
        exact .inr ⟨_, rest, rfl, hr⟩
    · split
      · exact .inl (hleft _)
      · exact .inl .none

end Seph.Pattern
