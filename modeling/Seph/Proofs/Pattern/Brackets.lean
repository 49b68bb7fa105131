import Seph.Pattern.Bracket
import Seph.Proofs.Pattern.Signs

/-!
# Sets before a closing parenthesis

In brackets a parenthesis is a character like others, so a set that is not closed takes the one behind
it; but then nothing is there to close the set (`IsSpent`). So a set that is read before a closing
parenthesis is read without it.

1. `openBracket?_close`, `listItem?_close`: the start of a set, and an item of its list.
2. `Brackets.step?_close`: one step in brackets.
3. `kept_bracketSet?`: a whole set.
-/

namespace Seph.Pattern

open Seph.Text (isBlank)

/-- No more than the parenthesis is left. -/
def IsSpent (rest : List Char) : Prop := rest = [] ∨ rest = [')']

/-! ## The start of a set -/

theorem takeHyphens_close (f : Flags) {n : Nat} (l : Listing) {cs : List Char} (hn : cs.length ≤ n) :
    let alone := takeHyphens f n l cs
    let closed := takeHyphens f (n + 1) l (cs ++ [')'])
    alone.2.length ≤ cs.length ∧ (closed.2 = [] ∨ closed = (alone.1, alone.2 ++ [')'])) := by
  induction n generalizing l cs with
  | zero =>
    cases List.eq_nil_of_length_eq_zero (Nat.le_zero.1 hn)
    exact ⟨Nat.le_refl _, .inr rfl⟩
  | succ n ih =>
    cases cs with
    | nil => exact ⟨Nat.le_refl _, .inr rfl⟩
    | cons c cs =>
      by_cases hc : c = '-'
      · cases hc
        have hlen := length_skip_le f cs
        have hn' : (skip f cs).length ≤ n := Nat.le_trans hlen (Nat.le_of_succ_le_succ hn)
        simp only [List.cons_append, takeHyphens]
        obtain ⟨hle, h⟩ := ih (l.add ⟨CharSet.single '-', 0⟩) hn'
        refine ⟨Nat.le_succ_of_le (Nat.le_trans hle hlen), ?_⟩
        rcases skip_close f cs with hs | ⟨-, hs⟩
        · rwa [hs]
        · rw [hs]
          exact .inl rfl
      · have hstop (m : Nat) (ds : List Char) : takeHyphens f m l (c :: ds) = (l, c :: ds) := by
          cases m with
          | zero => rfl
          | succ m =>
            unfold takeHyphens
            split
            · next h => exact absurd (List.cons.inj h).1 hc
            · rfl
        rw [List.cons_append, hstop, hstop]
        exact ⟨Nat.le_refl _, .inr rfl⟩

/-- The caret that negates a set, and the rest. -/
def caret (f : Flags) : List Char → Bool × List Char
  | '^' :: cs => (true, skip f cs)
  | cs => (false, cs)

theorem caret_other (f : Flags) {cs : List Char} (h : ∀ left, cs ≠ '^' :: left) :
    caret f cs = (false, cs) := caret.eq_2 f cs h

theorem caret_close (f : Flags) (cs : List Char) :
    let alone := caret f cs
    let closed := caret f (cs ++ [')'])
    alone.2.length ≤ cs.length ∧ (closed.2 = [] ∨ closed = (alone.1, alone.2 ++ [')'])) := by
  by_cases hd : ∃ left, cs = '^' :: left
  · obtain ⟨left, rfl⟩ := hd
    refine ⟨Nat.le_succ_of_le (length_skip_le f left), ?_⟩
    simp only [List.cons_append, caret]
    rcases skip_close f left with h | ⟨-, h⟩
    · rw [h]
      exact .inr rfl
    · exact .inl h
  · have hd' := not_exists.1 hd
    rw [caret_other f hd', caret_other f (close_ne_cons (by decide) hd')]
    exact ⟨Nat.le_refl _, .inr rfl⟩

/-- The list at the start of a set, and the rest: hyphens, or else a closing bracket. -/
def firstItems? (f : Flags) : Listing × List Char → Option (Listing × List Char)
  | (_, []) => none
  | (l, c :: cs) =>
    if c = ']' ∧ l.count = 0 then
      if (skip f cs).isEmpty then none else some (l.add ⟨CharSet.single ']', 0⟩, skip f cs)
    else some (l, c :: cs)

theorem openBracket?_eq (f : Flags) (cs : List Char) : openBracket? f cs =
    let r := caret f (skip f cs)
    (firstItems? f (takeHyphens f r.2.length Listing.empty r.2)).map fun s => (r.1, s.1, s.2) := by
  unfold openBracket?
  split
  next negated ds hr =>
  have hcaret : caret f (skip f cs) = (negated, ds) := hr
  rw [hcaret]
  dsimp only
  obtain ⟨l, _ | ⟨c, cs⟩⟩ := takeHyphens f ds.length Listing.empty ds
  · rfl
  · simp only [firstItems?]
    split
    · split <;> rfl
    · rfl

theorem firstItems?_close {f : Flags} {l l' : Listing} {cs rest : List Char}
    (h : firstItems? f (l, cs ++ [')']) = some (l', rest)) :
    IsSpent rest ∨ Leaves cs rest fun left => firstItems? f (l, cs) = some (l', left) := by
  cases cs with
  | nil =>
    cases h
    exact .inl (.inr rfl)
  | cons c cs =>
    have hlen := length_skip_le f cs
    simp only [List.cons_append, firstItems?] at h ⊢
    by_cases hc : c = ']' ∧ l.count = 0
    · rw [if_pos hc] at h ⊢
      rcases skip_close f cs with hs | ⟨-, hs⟩
      · rw [hs] at h
        cases hd : skip f cs with
        | nil =>
          rw [hd] at h
          cases h
          exact .inl (.inr rfl)
        | cons d ds =>
          rw [hd] at h hlen
          cases h
          exact .inr ⟨d :: ds, rfl, Nat.le_succ_of_le hlen, rfl⟩
      · rw [hs] at h
        cases h
    · rw [if_neg hc] at h ⊢
      cases h
      exact .inr ⟨c :: cs, rfl, Nat.le_refl _, rfl⟩

/-- A set that is opened before the parenthesis is opened alone, or else nothing is in it. -/
theorem openBracket?_close {f : Flags} {cs rest : List Char} {negated : Bool} {l : Listing}
    (h : openBracket? f (cs ++ [')']) = some (negated, l, rest)) :
    IsSpent rest ∨ Leaves cs rest fun left => openBracket? f cs = some (negated, l, left) := by
  rw [openBracket?_eq] at h ⊢
  have hspent {r : Bool × List Char} (hr : r.2 = []) :
      (firstItems? f (takeHyphens f r.2.length Listing.empty r.2)).map (fun s => (r.1, s.1, s.2)) =
        none := by
    rw [hr]
    rfl
  have hlen := length_skip_le f cs
  rcases skip_close f cs with hs | ⟨-, hs⟩
  · obtain ⟨hle, hc | hc⟩ := caret_close f (skip f cs)
    · rw [hs, hspent hc] at h
      cases h
    · rw [hs, hc] at h
      generalize caret f (skip f cs) = r at h hle ⊢
      dsimp only at h
      rw [List.length_append, List.length_singleton] at h
      obtain ⟨hle', ht | ht⟩ := takeHyphens_close f Listing.empty (Nat.le_refl r.2.length)
      · obtain ⟨s, hf, -⟩ := Option.map_eq_some_iff.1 h
        generalize takeHyphens f (r.2.length + 1) Listing.empty (r.2 ++ [')']) = t at hf ht
        obtain ⟨_, _⟩ := t
        cases ht
        cases hf
      · rw [ht] at h
        obtain ⟨⟨l', rest'⟩, hf, hr⟩ := Option.map_eq_some_iff.1 h
        cases hr
        have hle'' := Nat.le_trans hle' (Nat.le_trans hle hlen)
        exact (firstItems?_close hf).imp_right fun hl =>
          (hl.weaken hle'').imp fun left ha => congrArg (Option.map _) ha
  · rw [hs, hspent rfl] at h
    cases h

/-! ## Named sets -/

/-- The set with the name before `:]`. -/
def setName? (negated : Bool) (cs : List Char) : Option (Bool × CharSet × List Char) :=
  match cs.dropWhile (· != ':') with
  | ':' :: ']' :: rest =>
    (asciiSet? (String.ofList (cs.takeWhile (· != ':')))).map fun s => (negated, s, rest)
  | _ => none

theorem setName?_of_end {negated : Bool} {cs rest : List Char}
    (h : cs.dropWhile (· != ':') = ':' :: ']' :: rest) : setName? negated cs =
      (asciiSet? (String.ofList (cs.takeWhile (· != ':')))).map fun s => (negated, s, rest) := by
  simp only [setName?, h]

theorem setName?_of_no_end {negated : Bool} {cs : List Char}
    (h : ∀ rest, cs.dropWhile (· != ':') ≠ ':' :: ']' :: rest) : setName? negated cs = none := by
  unfold setName?
  split
  · next rest hr => exact absurd hr (h rest)
  · rfl

theorem setName?_close (negated : Bool) (cs : List Char) : setName? negated (cs ++ [')']) =
    (setName? negated cs).map fun r => (r.1, r.2.1, r.2.2 ++ [')']) := by
  by_cases hend : ∃ rest, cs.dropWhile (· != ':') = ':' :: ']' :: rest
  · obtain ⟨rest, hend⟩ := hend
    rcases dropWhile_close (p := (· != ':')) rfl cs with ⟨hd, -⟩ | ⟨hd, ht⟩
    · rw [hend] at hd
      cases hd
    · rw [hend] at hd
      rw [setName?_of_end hend, setName?_of_end hd, ht, Option.map_map]
      rfl
  · have hend' := not_exists.1 hend
    rw [setName?_of_no_end hend', setName?_of_no_end fun rest h => ?_]
    · rfl
    rcases dropWhile_close (p := (· != ':')) rfl cs with ⟨-, hd⟩ | ⟨hd, -⟩
    · rw [hd] at h
      cases h
    · rw [hd] at h
      obtain ⟨left, hl, hr⟩ := exists_of_close_eq (by decide) h
      obtain ⟨left', rfl, -⟩ := exists_of_close_eq (by decide) hr.symm
      exact hend' left' hl

theorem length_of_setName? {negated negated' : Bool} {cs rest : List Char} {s : CharSet}
    (h : setName? negated cs = some (negated', s, rest)) : rest.length ≤ cs.length := by
  unfold setName? at h
  split at h
  · next rest' hd =>
    obtain ⟨s', -, hs⟩ := Option.map_eq_some_iff.1 h
    cases hs
    have hlen := (List.dropWhile_sublist (p := (· != ':')) (l := cs)).length_le
    rw [hd] at hlen
    exact Nat.le_of_succ_le (Nat.le_of_succ_le hlen)
  · cases h

theorem namedSet?_eq (cs : List Char) : namedSet? cs =
    match cs with
    | ':' :: '^' :: cs => setName? true cs
    | ':' :: cs => setName? false cs
    | _ => none := by
  have hname (negated : Bool) (cs : List Char) : (match cs.dropWhile (· != ':') with
      | ':' :: ']' :: rest => do
        let s ← asciiSet? (String.ofList (cs.takeWhile (· != ':')))
        some (negated, s, rest)
      | _ => none) = setName? negated cs := by
    unfold setName?
    split
    · cases asciiSet? (String.ofList (cs.takeWhile (· != ':'))) <;> rfl
    · rfl
  unfold namedSet?
  split
  · split
    next negated ds hr =>
    split at hr
    · cases hr
      exact hname true ds
    · next hcaret =>
      cases hr
      refine (hname false _).trans ?_
      split
      · next h => exact absurd (List.cons.inj h).2 (hcaret _)
      · next h => rw [(List.cons.inj h).2]
      · next h => exact absurd rfl (h _)
  · next hcolon =>
    split
    · exact absurd rfl (hcolon _)
    · exact absurd rfl (hcolon _)
    · rfl

theorem namedSet?_close (cs : List Char) : namedSet? (cs ++ [')']) =
    (namedSet? cs).map fun r => (r.1, r.2.1, r.2.2 ++ [')']) := by
  rw [namedSet?_eq, namedSet?_eq]
  split
  · next h =>
    obtain ⟨_, rfl, hr⟩ := exists_of_close_eq (by decide) h
    obtain ⟨ds, rfl, rfl⟩ := exists_of_close_eq (by decide) hr.symm
    exact setName?_close true ds
  · next hcaret h =>
    obtain ⟨ds, rfl, rfl⟩ := exists_of_close_eq (by decide) h
    split
    · next h => 
      cases h
      exact absurd rfl (hcaret _)
    · next h => 
      cases h
      exact setName?_close false _
    · next h => exact absurd rfl (h _)
  · next hcolon => 
    split
    · exact absurd rfl (hcolon _)
    · exact absurd rfl (hcolon _)
    · rfl

theorem length_of_namedSet? {cs rest : List Char} {negated : Bool} {s : CharSet}
    (h : namedSet? cs = some (negated, s, rest)) : rest.length ≤ cs.length := by
  rw [namedSet?_eq] at h
  split at h
  · exact Nat.le_succ_of_le (Nat.le_succ_of_le (length_of_setName? h))
  · exact Nat.le_succ_of_le (length_of_setName? h)
  · cases h

/-! ## Items -/

/-- The text behind a hyphen, from the sign on that tells whether the hyphen writes a range. -/
def behindHyphen (f : Flags) (cs : List Char) : List Char :=
  if !f.spaced then cs
  else match cs.dropWhile isBlank with
    | '#' :: cs => cs.dropWhile isBlank
    | cs => cs

theorem behindHyphen_close (f : Flags) (cs : List Char) :
    behindHyphen f (cs ++ [')']) = behindHyphen f cs ++ [')'] := by
  unfold behindHyphen
  split
  · rfl
  · rw [dropWhile_isBlank_close]
    split
    · next ds h =>
      obtain ⟨left, hd, rfl⟩ := exists_of_close_eq (by decide) h
      simp only [dropWhile_isBlank_close, hd]
    · next hcomment =>
      split
      · next h => 
        rw [h] at hcomment
        exact absurd rfl (hcomment _)
      · rfl

theorem isRangeSign_close (f : Flags) {cs : List Char} (h : cs ≠ []) :
    isRangeSign f (cs ++ [')']) = isRangeSign f cs := by
  obtain ⟨c, cs, rfl⟩ := List.exists_cons_of_ne_nil h
  by_cases hc : c = '-'
  · cases hc
    show ((behindHyphen f (cs ++ [')'])).head? != some ']' &&
        (behindHyphen f (cs ++ [')'])).head? != some '-') =
      ((behindHyphen f cs).head? != some ']' && (behindHyphen f cs).head? != some '-')
    rw [behindHyphen_close]
    cases behindHyphen f cs <;> rfl
  · have hother (ds : List Char) : isRangeSign f (c :: ds) = false :=
      isRangeSign.eq_2 f (c :: ds) fun _ h => hc (List.cons.inj h).1
    rw [List.cons_append, hother, hother]

theorem kept_listSign? (f : Flags) (c : Char) (cs : List Char) :
    Kept cs (listSign? f (c :: cs)) (listSign? f (c :: cs ++ [')'])) ∨
      ∃ l rest, listSign? f (c :: cs ++ [')']) = some (.look l, rest) ∧ IsOpenBrace f rest := by
  by_cases hc : c = '\\'
  · cases hc
    exact kept_escape? f cs
  · have hchar (ds : List Char) : listSign? f (c :: ds) = some (.char c, ds) := listSign?.eq_3 f c ds hc
    rw [List.cons_append, hchar, hchar]
    exact .inl (.left (Nat.le_refl _))

def rangeSet? (f : Flags) (first last : Sign) : Option CharSet :=
  match first, last with
  | .char a, .char b =>
    if a.toNat ≤ b.toNat && (f.unicode || b.toNat < 128) then some (CharSet.range a.toNat b.toNat) else none
  | _, _ => none

/-- The item that begins with a sign: the sign alone, or a range to another one. -/
def itemFrom? (f : Flags) (first : Sign) (rest : List Char) : Option (CharSet × List Char) :=
  if rest.isEmpty then none
  else if !isRangeSign f rest then (signSet? f first).map (·, rest)
  else (listSign? f (skip f (rest.drop 1))).bind fun r => (rangeSet? f first r.1).map (·, r.2)

theorem listItem?_eq (f : Flags) (cs : List Char) : listItem? f cs =
    (listSign? f cs).bind fun r => itemFrom? f r.1 (skip f r.2) := by
  refine congrArg (Option.bind _) (funext fun ⟨first, rest⟩ => ?_)
  unfold itemFrom?
  dsimp only
  split
  · rfl
  split
  · cases signSet? f first <;> rfl
  refine congrArg (Option.bind _) (funext fun ⟨last, rest⟩ => ?_)
  cases first with
  | char a =>
    cases last with
    | char b =>
      show (if _ then _ else _) = Option.map _ (if _ then _ else _)
      split <;> rfl
    | set | look => rfl
  | set | look => rfl

theorem itemFrom?_close {f : Flags} {first : Sign} {cs rest : List Char} {s : CharSet}
    (h : itemFrom? f first (cs ++ [')']) = some (s, rest)) :
    IsSpent rest ∨ Leaves cs rest fun left => itemFrom? f first cs = some (s, left) := by
  cases cs with
  | nil =>
    obtain ⟨s', -, hs⟩ := Option.map_eq_some_iff.1 h
    cases hs
    exact .inl (.inr rfl)
  | cons c cs =>
    have hlen := length_skip_le f cs
    unfold itemFrom? at h ⊢
    rw [isRangeSign_close f (List.cons_ne_nil c cs)] at h
    rw [if_neg (by simp)] at h ⊢
    split at h
    · next hsign =>
      rw [if_pos hsign]
      obtain ⟨s', hs', hs⟩ := Option.map_eq_some_iff.1 h
      cases hs
      exact .inr ⟨c :: cs, rfl, Nat.le_refl _, congrArg (Option.map _) hs'⟩
    · next hsign =>
      rw [if_neg hsign]
      change (listSign? f (skip f (cs ++ [')']))).bind _ = _ at h
      show IsSpent rest ∨ Leaves (c :: cs) rest fun left => (listSign? f (skip f cs)).bind _ = _
      rcases skip_close f cs with hs | ⟨-, hs⟩
      · rw [hs] at h
        cases hd : skip f cs with
        | nil =>
          rw [hd] at h
          obtain ⟨r, hr, h⟩ := Option.bind_eq_some_iff.1 h
          cases hr
          obtain ⟨s', -, hs'⟩ := Option.map_eq_some_iff.1 h
          cases hs'
          exact .inl (.inl rfl)
        | cons d ds =>
          rw [hd] at h hlen
          rcases kept_listSign? f d ds with hk | ⟨l, r, hl, -⟩
          · have hle : ds.length ≤ (c :: cs).length :=
              Nat.le_trans (Nat.le_of_succ_le hlen) (Nat.le_succ _)
            exact (hk.refine (rangeSet? f first) s rest h).imp .inl (·.weaken hle)
          · rw [hl] at h
            obtain ⟨s', hs', -⟩ := Option.map_eq_some_iff.1 h
            cases first <;> cases hs'
      · rw [hs] at h
        cases h

theorem listItem?_close {f : Flags} {c : Char} {cs rest : List Char} {s : CharSet}
    (h : listItem? f (c :: cs ++ [')']) = some (s, rest)) :
    IsSpent rest ∨ Leaves cs rest fun left => listItem? f (c :: cs) = some (s, left) := by
  rw [listItem?_eq] at h ⊢
  obtain ⟨⟨first, r⟩, hr, h⟩ := Option.bind_eq_some_iff.1 h
  rcases kept_listSign? f c cs with hk | ⟨l, r', hl, inner, rfl, -⟩
  · rcases hk first r hr with rfl | ⟨left, rfl, hle, ha⟩
    · change itemFrom? f first (skip f []) = _ at h
      rw [skip_nil] at h
      cases h
    · have hlen := Nat.le_trans (length_skip_le f left) hle
      rw [ha]
      change itemFrom? f first (skip f (left ++ [')'])) = _ at h
      rcases skip_close f left with hs | ⟨-, hs⟩
      · rw [hs] at h
        exact (itemFrom?_close h).imp_right (·.weaken hlen)
      · rw [hs] at h
        cases h
  · -- A look is no item, and the brace behind it is no sign of a range.
    rw [hl] at hr
    cases hr
    change itemFrom? f (.look l) (skip f ('\x7b' :: inner)) = _ at h
    rw [skip_cons f (by decide) (by decide)] at h
    cases h

/-- The parenthesis alone is no item, since nothing closes the set behind it. -/
theorem listItem?_alone (f : Flags) : listItem? f [')'] = none := by
  rw [listItem?_eq]
  show itemFrom? f (.char ')') (skip f []) = none
  rw [skip_nil]
  rfl

/-! ## Sets -/

namespace ListStep

/-- What a step leaves to be read. -/
def rest : ListStep → List Char
  | more _ rest | done _ rest => rest

/-- A step with the parenthesis behind what it leaves. -/
def closed : ListStep → ListStep
  | more b rest => more b (rest ++ [')'])
  | done s rest => done s (rest ++ [')'])

end ListStep

namespace Brackets

variable {f : Flags}

theorem close?_close {b : Brackets} {rest : List Char} {st : ListStep}
    (h : b.close? f (rest ++ [')']) = some st) :
    ∃ alone, b.close? f rest = some alone ∧ st = alone.closed ∧ alone.rest = rest := by
  obtain ⟨s, hs, h⟩ := Option.bind_eq_some_iff.1 h
  cases ho : b.outer with
  | nil =>
    rw [ho] at h
    cases h
    refine ⟨.done _ rest, ?_, rfl, rfl⟩
    simp [close?, hs, ho]
  | cons around outer =>
    rw [ho] at h
    cases h
    refine ⟨.more _ rest, ?_, rfl, rfl⟩
    simp [close?, hs, ho]

theorem step?_spent {b : Brackets} {rest : List Char} (h : IsSpent rest) : b.step? f rest = none := by
  rcases h with rfl | rfl
  · unfold step?
    rw [skip_nil]
  · unfold step?
    rw [skip_cons f (by decide) (by decide)]
    show (listItem? f [')']).map _ = none
    rw [listItem?_alone]
    rfl

/-- A step before the parenthesis, behind the text `cs`, is the step `alone?` that is taken without it, or
spends all of the text. -/
def StepKept (cs : List Char) (alone? : Option ListStep) (st : ListStep) : Prop :=
  (∃ b rest, st = .more b rest ∧ IsSpent rest) ∨
    ∃ alone, alone? = some alone ∧ st = alone.closed ∧ alone.rest.length < cs.length

/-- What an opening bracket in a set begins: a class that has a name, or else a set. -/
def opened? (f : Flags) (b : Brackets) (cs : List Char) : Option ListStep :=
  match namedSet? cs with
  | some (negated, s, rest) =>
    (negate? f negated (foldSet f s)).map fun s => .more { b with list := b.list.add ⟨s, 0⟩ } rest
  | none =>
    (openBracket? f cs).map fun (negated, l, rest) =>
      .more ⟨l, ⟨b.list, negated, none⟩, b.here :: b.outer⟩ rest

theorem opened?_close {b : Brackets} {cs ds : List Char} {st : ListStep} (hlen : ds.length < cs.length)
    (h : opened? f b (ds ++ [')']) = some st) : StepKept cs (opened? f b ds) st := by
  unfold opened? at h ⊢
  rw [namedSet?_close] at h
  cases hn : namedSet? ds with
  | none =>
    rw [hn] at h
    obtain ⟨⟨negated, l, rest⟩, ho, hst⟩ := Option.map_eq_some_iff.1 h
    cases hst
    rcases openBracket?_close ho with hspent | ⟨left, rfl, hle, ha⟩
    · exact .inl ⟨_, rest, rfl, hspent⟩
    · exact .inr ⟨.more _ left, congrArg (Option.map _) ha, rfl, Nat.lt_of_le_of_lt hle hlen⟩
  | some r =>
    obtain ⟨negated, s, left⟩ := r
    rw [hn] at h
    obtain ⟨s', hs', hst⟩ := Option.map_eq_some_iff.1 h
    cases hst
    exact .inr ⟨.more _ left, congrArg (Option.map _) hs', rfl,
      Nat.lt_of_le_of_lt (length_of_namedSet? hn) hlen⟩

theorem exists_of_close_twice {c d : Char} {ds rest : List Char} (hc : c ≠ ')')
    (h : d :: (ds ++ [')']) = c :: c :: rest) : ∃ left, d = c ∧ ds = c :: left ∧ rest = left ++ [')'] := by
  obtain ⟨hd, htail⟩ := List.cons.inj h
  obtain ⟨left, hds, hrest⟩ := exists_of_close_eq hc htail
  exact ⟨left, hd, hds, hrest⟩

/-- A step before the parenthesis is the step that is taken alone, or spends all of the text. -/
theorem step?_close {b : Brackets} {cs : List Char} {st : ListStep}
    (h : b.step? f (cs ++ [')']) = some st) : StepKept cs (b.step? f cs) st := by
  have hlen := length_skip_le f cs
  rcases skip_close f cs with hs | ⟨-, hs⟩
  · cases hd : skip f cs with
    | nil =>
      rw [hd] at hs
      unfold step? at h
      rw [hs] at h
      change (listItem? f [')']).map _ = _ at h
      rw [listItem?_alone] at h
      cases h
    | cons d ds =>
      rw [hd] at hs hlen
      unfold step? at h ⊢
      rw [hs] at h
      rw [hd]
      simp only [List.cons_append] at h
      split at h
      · cases h
      · next h' =>
        cases h'
        exact opened?_close hlen h
      · next h' =>
        cases h'
        obtain ⟨alone, ha, hst, hrest⟩ := close?_close h
        exact .inr ⟨alone, ha, hst, hrest ▸ hlen⟩
      · next h' =>
        obtain ⟨left, rfl, rfl, rfl⟩ := exists_of_close_twice (by decide) h'
        cases h
        exact .inr ⟨.more _ left, rfl, rfl, Nat.le_of_succ_le hlen⟩
      · next h' =>
        obtain ⟨left, rfl, rfl, rfl⟩ := exists_of_close_twice (by decide) h'
        cases h
        exact .inr ⟨.more _ left, rfl, rfl, Nat.le_of_succ_le hlen⟩
      · next h' =>
        obtain ⟨left, rfl, rfl, rfl⟩ := exists_of_close_twice (by decide) h'
        cases h
        exact .inr ⟨.more _ left, rfl, rfl, Nat.le_of_succ_le hlen⟩
      · next hopen hclose hboth hfirst heither =>
        obtain ⟨⟨s, rest⟩, hi, hst⟩ := Option.map_eq_some_iff.1 h
        cases hst
        rcases listItem?_close hi with hspent | ⟨left, rfl, hle, ha⟩
        · exact .inl ⟨_, rest, rfl, hspent⟩
        refine .inr ⟨.more _ left, ?_, rfl, Nat.lt_of_le_of_lt hle hlen⟩
        split
        · next h' => cases h'
        · next h' => exact absurd (congrArg (· ++ [')']) h') (hopen _)
        · next h' => exact absurd (congrArg (· ++ [')']) h') (hclose _)
        · next h' => exact absurd (congrArg (· ++ [')']) h') (hboth _)
        · next h' => exact absurd (congrArg (· ++ [')']) h') (hfirst _)
        · next h' => exact absurd (congrArg (· ++ [')']) h') (heither _)
        · rw [ha]
          rfl
  · unfold step? at h
    rw [hs] at h
    cases h

/-- The rest of a set is read the same before the parenthesis. -/
theorem kept_read? {n : Nat} {b : Brackets} {cs : List Char} (hn : cs.length < n) :
    Kept cs (read? f n b cs) (read? f (n + 1) b (cs ++ [')'])) := by
  induction n generalizing b cs with
  | zero => exact absurd hn (Nat.not_lt_zero _)
  | succ n ih =>
    intro s rest h
    unfold read? at h
    split at h
    · cases h
    · next hst =>
      cases h
      rcases step?_close hst with ⟨b', rest', hmore, -⟩ | ⟨alone, ha, hclosed, hlt⟩
      · cases hmore
      · cases alone with
        | more => cases hclosed
        | done s left =>
          cases hclosed
          refine .inr ⟨left, rfl, Nat.le_of_lt hlt, ?_⟩
          unfold read?
          rw [ha]
    · next b' rest' hst =>
      rcases step?_close hst with ⟨b'', rest'', hmore, hspent⟩ | ⟨alone, ha, hclosed, hlt⟩
      · cases hmore
        unfold read? at h
        rw [step?_spent hspent] at h
        cases h
      · cases alone with
        | done => cases hclosed
        | more b'' left =>
          cases hclosed
          have hle : left.length < n := Nat.lt_of_lt_of_le hlt (Nat.le_of_lt_succ hn)
          refine (ih hle s rest h).imp_right fun hl =>
            (hl.weaken (Nat.le_of_lt hlt)).imp fun left hr => ?_
          unfold read?
          rw [ha]
          exact hr

end Brackets

/-- **A set in brackets is read the same before a closing parenthesis.** -/
theorem kept_bracketSet? (f : Flags) (cs : List Char) :
    Kept cs (bracketSet? f cs) (bracketSet? f (cs ++ [')'])) := by
  intro s rest h
  obtain ⟨⟨negated, l, r⟩, ho, h⟩ := Option.bind_eq_some_iff.1 h
  rcases openBracket?_close ho with hspent | ⟨left, rfl, hle, ha⟩
  · dsimp only at h
    unfold Brackets.read? at h
    rw [Brackets.step?_spent hspent] at h
    cases h
  · dsimp only at h
    rw [List.length_append, List.length_singleton] at h
    refine (Brackets.kept_read? (Nat.lt_succ_self _) s rest h).imp_right fun hl =>
      (hl.weaken hle).imp fun left hr => ?_
    unfold bracketSet?
    rw [ha]
    exact hr

end Seph.Pattern
