import Mathlib.Data.List.TakeDrop
import Seph.Pattern.Parse
import Seph.Proofs.Pattern.Brackets

/-!
# Patterns inside a group

A pattern that is put into a group behind `^` is read with the group's parenthesis behind it. Step by step
that is how it is read alone, at places that stand inside the group (`Place.within`), until its text is at
an end and the parenthesis closes the group. Only a parenthesis of the pattern that closes no group of
its own ends the group before; then the pattern cannot be read alone at all (`Place.Strays`).

1. `Place.step?_within`: one step inside the group.
2. `Place.read?_within`: all of a pattern inside the group.
3. `parse?_enclosed`: the pattern that is read of the whole text.
-/

namespace Seph.Pattern

open Seph.Text (isBlank)

/-! ## Flags, names and counts -/

/-- Flags are read up to the parenthesis if nothing ends them before. -/
theorem Flags.read?_close {seen : List Char} {on open? any : Bool} {f f' : Flags} {cs rest : List Char}
    {sign : Char} (h : Flags.read? seen on open? f (cs ++ [')']) = some (f', any, sign, rest)) :
    rest = [] ∨ Leaves cs rest fun left =>
      Flags.read? seen on open? f cs = some (f', any, sign, left) := by
  induction cs generalizing seen on open? f with
  | nil =>
    simp only [List.nil_append, Flags.read?] at h
    rw [if_pos (Or.inr trivial)] at h
    split at h
    · cases h
    · cases h
      exact .inl rfl
  | cons c cs ih =>
    simp only [List.cons_append, Flags.read?] at h ⊢
    split at h
    · next hc =>
      rw [if_pos hc]
      split at h
      · cases h
      · next ho =>
        cases h
        exact .inr ⟨cs, rfl, Nat.le_succ _, if_neg ho⟩
    · next hc =>
      rw [if_neg hc]
      split at h
      · cases h
      · next hs =>
        rw [if_neg hs]
        split at h
        · next hm =>
          rw [if_pos hm]
          exact (ih h).imp_right (·.weaken (Nat.le_succ _))
        · next hm =>
          rw [if_neg hm]
          split at h
          · exact (ih h).imp_right (·.weaken (Nat.le_succ _))
          · cases h

namespace Place

theorem dropLazy_close (cs : List Char) : dropLazy (cs ++ [')']) = dropLazy cs ++ [')'] := by
  cases cs with
  | nil => rfl
  | cons c cs =>
    by_cases hc : c = '?'
    · cases hc
      rfl
    · have hother (ds : List Char) : dropLazy (c :: ds) = c :: ds :=
        dropLazy.eq_2 (c :: ds) fun _ h => hc (List.cons.inj h).1
      rw [List.cons_append, hother, hother]
      rfl

theorem length_dropLazy_le (cs : List Char) : (dropLazy cs).length ≤ cs.length := by
  unfold dropLazy
  split
  · exact Nat.le_succ _
  · exact Nat.le_refl _

theorem kept_count? (f : Flags) (cs : List Char) : Kept cs (count? f cs) (count? f (cs ++ [')'])) := by
  have hblank (ds : List Char) : (ds.dropWhile isBlank).length ≤ ds.length :=
    (List.dropWhile_sublist _).length_le
  intro n rest h
  unfold count? at h ⊢
  rw [dropWhile_isBlank_close] at h
  obtain ⟨hle, hds, hrest⟩ := takeDigits_close f false [] (cs.dropWhile isBlank)
  generalize takeDigits f false [] (cs.dropWhile isBlank ++ [')']) = closed at h hds hrest
  generalize takeDigits f false [] (cs.dropWhile isBlank) = alone at hle hds hrest ⊢
  obtain ⟨ds, left⟩ := alone
  obtain ⟨ds', r⟩ := closed
  cases hds
  dsimp only at h hle hrest ⊢
  split at h
  · cases h
  · next hn =>
    cases h
    rw [if_neg hn]
    rcases hrest with rfl | rfl
    · exact .inl rfl
    · exact .inr ⟨left.dropWhile isBlank, dropWhile_isBlank_close left,
        Nat.le_trans (hblank left) (Nat.le_trans hle (hblank cs)), rfl⟩

theorem count?_alone (f : Flags) : count? f [')'] = none := by
  have hblank : [')'].dropWhile isBlank = [')'] := by decide
  unfold count?
  rw [hblank]
  simp [takeDigits]

/-- What follows a closing brace. -/
def brace? : List Char → Option (List Char)
  | '\x7d' :: cs => some cs
  | _ => none

theorem brace?_other {cs : List Char} (h : ∀ left, cs ≠ '\x7d' :: left) : brace? cs = none :=
  brace?.eq_2 cs h

theorem brace?_close (cs : List Char) : brace? (cs ++ [')']) = (brace? cs).map (· ++ [')']) := by
  by_cases hb : ∃ left, cs = '\x7d' :: left
  · obtain ⟨left, rfl⟩ := hb
    rfl
  · have hb' := not_exists.1 hb
    rw [brace?_other hb', brace?_other (close_ne_cons (by decide) hb')]
    rfl

theorem length_of_brace? {cs rest : List Char} (h : brace? cs = some rest) : rest.length ≤ cs.length := by
  unfold brace? at h
  split at h
  · cases h
    exact Nat.le_succ _
  · cases h

/-- The greater count of a repetition, behind the comma, up to the closing brace. -/
def upperCount? (f : Flags) (least : Nat) (cs : List Char) : Option (Option Nat × List Char) :=
  match brace? (skip f cs) with
  | some rest => some (none, rest)
  | none => (count? f (skip f cs)).bind fun r =>
    (brace? r.2).bind fun rest => if least ≤ r.1 then some (some r.1, rest) else none

/-- What follows the smaller count of a repetition: the closing brace, or the greater count. -/
def upper? (f : Flags) (least : Nat) : List Char → Option (Nat × Option Nat × List Char)
  | '\x7d' :: rest => some (least, some least, rest)
  | ',' :: rest => (upperCount? f least rest).map fun u => (least, u.1, u.2)
  | _ => none

theorem upper?_other {f : Flags} {least : Nat} {cs : List Char} (hbrace : ∀ left, cs ≠ '\x7d' :: left)
    (hcomma : ∀ left, cs ≠ ',' :: left) : upper? f least cs = none :=
  upper?.eq_3 f least cs hbrace hcomma

theorem counts?_eq (f : Flags) (cs : List Char) :
    counts? f cs = (count? f (skip f cs)).bind fun r => upper? f r.1 r.2 := by
  refine congrArg (Option.bind _) (funext fun ⟨least, rest⟩ => ?_)
  dsimp only
  split
  · rfl
  · next rest =>
    show _ = (upperCount? f least rest).map fun u => (least, u.1, u.2)
    unfold upperCount?
    split
    · next h =>
      simp only [h, brace?]
      rfl
    · next h =>
      rw [brace?_other h]
      dsimp only
      cases count? f (skip f rest) with
      | none => rfl
      | some r =>
        obtain ⟨most, r⟩ := r
        dsimp only [Option.bind_eq_bind, Option.bind_some]
        split
        · next h' =>
          cases h'
          simp only [brace?, Option.bind_some]
          split <;> rfl
        · next h' =>
          rw [brace?_other fun left h => h' most left (h ▸ rfl)]
          rfl
  · next hbrace hcomma => exact (upper?_other hbrace hcomma).symm

theorem kept_upperCount? (f : Flags) (least : Nat) (cs : List Char) :
    Kept cs (upperCount? f least cs) (upperCount? f least (cs ++ [')'])) := by
  have hlen := length_skip_le f cs
  unfold upperCount?
  rcases skip_close f cs with hs | ⟨-, hs⟩
  · rw [hs, brace?_close]
    cases hb : brace? (skip f cs) with
    | some rest => exact .left (Nat.le_trans (length_of_brace? hb) hlen)
    | none =>
      intro most rest h
      obtain ⟨⟨n, r⟩, hn, h⟩ := Option.bind_eq_some_iff.1 h
      obtain ⟨r', hr, h⟩ := Option.bind_eq_some_iff.1 h
      rcases kept_count? f _ n r hn with rfl | ⟨left, rfl, hle, ha⟩
      · cases hr
      · rw [brace?_close] at hr
        obtain ⟨left', hl, rfl⟩ := Option.map_eq_some_iff.1 hr
        split at h
        · next hleast =>
          cases h
          have hle' := Nat.le_trans (length_of_brace? hl) (Nat.le_trans hle hlen)
          exact .inr ⟨left', rfl, hle', by simp [ha, hl, hleast]⟩
        · cases h
  · rw [hs]
    exact .none

theorem counts?_close {f : Flags} {cs rest : List Char} {least : Nat} {most : Option Nat}
    (h : counts? f (cs ++ [')']) = some (least, most, rest)) :
    rest = [] ∨ Leaves cs rest fun left => counts? f cs = some (least, most, left) := by
  have hlen := length_skip_le f cs
  rw [counts?_eq] at h ⊢
  obtain ⟨⟨n, r⟩, hc, h⟩ := Option.bind_eq_some_iff.1 h
  rcases skip_close f cs with hs | ⟨-, hs⟩
  · rw [hs] at hc
    rcases kept_count? f _ n r hc with rfl | ⟨left, rfl, hle, ha⟩
    · cases h
    · rw [ha]
      dsimp only at h
      unfold upper? at h
      split at h
      · next h' =>
        obtain ⟨left, rfl, rfl⟩ := exists_of_close_eq (by decide) h'
        cases h
        exact .inr ⟨left, rfl, Nat.le_trans (Nat.le_of_succ_le hle) hlen, rfl⟩
      · next h' =>
        obtain ⟨left, rfl, rfl⟩ := exists_of_close_eq (by decide) h'
        obtain ⟨⟨u, r⟩, hu, hr⟩ := Option.map_eq_some_iff.1 h
        cases hr
        have hle' := Nat.le_trans (Nat.le_of_succ_le hle) hlen
        exact (kept_upperCount? f _ left u r hu).imp_right fun hl =>
          (hl.weaken hle').imp fun left hu' => congrArg (Option.map _) hu'
      · cases h
  · rw [hs] at hc
    cases hc

/-! ## Places -/

/-- A place that stands inside the group `g`, with nothing around that. -/
def within (g : Group) (s : Place) : Place := { s with outer := s.outer ++ [g] }

@[simp] theorem within_here (g : Group) (s : Place) : (s.within g).here = s.here := rfl

theorem within_outer_ne_nil (g : Group) (s : Place) : (s.within g).outer ≠ [] := by
  simp [within]

theorem repeatLast?_within (g : Group) (s : Place) (least : Nat) (most : Option Nat) :
    (s.within g).repeatLast? least most = (s.repeatLast? least most).map (within g) := by
  unfold repeatLast?
  rw [Option.map_map]
  rfl

/-- What is read inside the group `g` with its parenthesis behind the text `cs`, `closed`, is what is read
of the text alone, `alone`, with the parenthesis behind what is left; or nothing is left. -/
def KeptWithin (g : Group) (cs : List Char) (alone closed : Option (Place × List Char)) : Prop :=
  ∀ s rest, closed = some (s, rest) → ∃ t, s = t.within g ∧
    (rest = [] ∨ Leaves cs rest fun left => alone = some (t, left))

namespace KeptWithin

variable {g : Group} {cs ds : List Char} {alone closed : Option (Place × List Char)}

theorem left {t : Place} (h : ds.length ≤ cs.length) :
    KeptWithin g cs (some (t, ds)) (some (t.within g, ds ++ [')'])) := by
  rintro _ _ ⟨⟩
  exact ⟨t, rfl, .inr ⟨ds, rfl, h, rfl⟩⟩

theorem nil (t : Place) : KeptWithin g cs alone (some (t.within g, [])) := by
  rintro _ _ ⟨⟩
  exact ⟨t, rfl, .inl rfl⟩

theorem weaken (h : KeptWithin g ds alone closed) (hl : ds.length ≤ cs.length) :
    KeptWithin g cs alone closed := by
  intro s rest hr
  obtain ⟨t, hst, hread⟩ := h s rest hr
  exact ⟨t, hst, hread.imp_right (·.weaken hl)⟩

end KeptWithin

/-- The group that is opened by a name, given with what follows it from `>` on. -/
def openBy? (s : Place) : List Char × List Char → Option (Place × List Char)
  | (c :: name, '>' :: rest) =>
    if isNameChar true c && name.all (isNameChar false) && !s.names.contains (c :: name) then
      some ({ s.enter s.here.flags with names := (c :: name) :: s.names }, rest)
    else none
  | _ => none

theorem openNamed?_eq (s : Place) (cs : List Char) :
    s.openNamed? cs = s.openBy? (cs.takeWhile (· != '>'), cs.dropWhile (· != '>')) := by
  rw [← List.span_eq_takeWhile_dropWhile]
  rfl

theorem kept_openNamed? (g : Group) (s : Place) (cs : List Char) :
    KeptWithin g cs (s.openNamed? cs) ((s.within g).openNamed? (cs ++ [')'])) := by
  intro s' rest h
  rw [openNamed?_eq] at h
  have hlen := (List.dropWhile_sublist (p := (· != '>')) (l := cs)).length_le
  rcases dropWhile_close (p := (· != '>')) rfl cs with ⟨-, hd⟩ | ⟨hd, ht⟩
  · rw [hd] at h
    unfold openBy? at h
    split at h
    · next h' => cases (Prod.mk.inj h').2
    · cases h
  · rw [hd, ht] at h
    unfold openBy? at h
    split at h
    · next c name _ h' =>
      obtain ⟨hname, hbehind⟩ := Prod.mk.inj h'
      obtain ⟨left, hl, rfl⟩ := exists_of_close_eq (by decide) hbehind
      split at h
      · next hok =>
        cases h
        rw [hl] at hlen
        refine ⟨{ s.enter s.here.flags with names := (c :: name) :: s.names }, rfl,
          .inr ⟨left, rfl, Nat.le_of_succ_le hlen, ?_⟩⟩
        rw [openNamed?_eq, hname, hl]
        exact if_pos hok
      · cases h
    · cases h

/-- A group with flags, or flags alone, behind a question mark. -/
def openFlags? (s : Place) (cs : List Char) : Option (Place × List Char) :=
  match Flags.read? [] true false s.here.flags cs with
  | some (f, any, sign, rest) =>
    if sign = ':' then some (s.enter f, rest)
    else if any then some ({ s with here := { s.here.add ⟨.empty, 0, true⟩ with flags := f } }, rest)
    else none
  | none => none

theorem kept_openFlags? (g : Group) (s : Place) (cs : List Char) :
    KeptWithin g cs (s.openFlags? cs) ((s.within g).openFlags? (cs ++ [')'])) := by
  intro s' rest h
  unfold openFlags? at h ⊢
  rw [within_here] at h
  split at h
  · next f any sign r hflags =>
    have hread := Flags.read?_close hflags
    split at h
    · next hsign =>
      cases h
      refine ⟨s.enter f, rfl, hread.imp_right (·.imp fun left ha => ?_)⟩
      rw [ha]
      exact if_pos hsign
    · next hsign =>
      split at h
      · next hany =>
        cases h
        refine ⟨{ s with here := { s.here.add ⟨.empty, 0, true⟩ with flags := f } }, rfl,
          hread.imp_right (·.imp fun left ha => ?_)⟩
        rw [ha]
        exact (if_neg hsign).trans (if_pos hany)
      · cases h
  · cases h

/-- What is opened by a parenthesis, given with what follows it from the next sign on. -/
def opened? (s : Place) : List Char → Option (Place × List Char)
  | '?' :: '=' :: _ | '?' :: '!' :: _ | '?' :: '<' :: '=' :: _ | '?' :: '<' :: '!' :: _ => none
  | '?' :: 'P' :: '<' :: cs | '?' :: '<' :: cs => s.openNamed? cs
  | '?' :: cs => s.openFlags? cs
  | cs => some (s.enter s.here.flags, cs)

theorem kept_opened? (g : Group) (s : Place) (ds : List Char) :
    KeptWithin g ds (s.opened? ds) ((s.within g).opened? (ds ++ [')'])) := by
  have close {a b : List Char} (h : a = b) : a ++ [')'] = b ++ [')'] := congrArg (· ++ [')']) h
  intro s' rest h
  unfold opened? at h
  split at h
  · cases h
  · cases h
  · cases h
  · cases h
  · next h' =>
    obtain ⟨ds₁, rfl, h₁⟩ := exists_of_close_eq (by decide) h'
    obtain ⟨ds₂, rfl, h₂⟩ := exists_of_close_eq (by decide) h₁.symm
    obtain ⟨ds₃, rfl, rfl⟩ := exists_of_close_eq (by decide) h₂.symm
    exact (kept_openNamed? g s ds₃).weaken (by simp only [List.length_cons]; omega) s' rest h
  · next hahead hnot h' =>
    obtain ⟨ds₁, rfl, h₁⟩ := exists_of_close_eq (by decide) h'
    obtain ⟨ds₂, rfl, rfl⟩ := exists_of_close_eq (by decide) h₁.symm
    rw [opened?.eq_6 s ds₂ (fun _ h => hahead _ (close h)) fun _ h => hnot _ (close h)]
    exact (kept_openNamed? g s ds₂).weaken (by simp only [List.length_cons]; omega) s' rest h
  · next hahead hnot hbehind hnotbehind hnamed hshort h' =>
    obtain ⟨ds₁, rfl, rfl⟩ := exists_of_close_eq (by decide) h'
    rw [opened?.eq_7 s ds₁ (fun _ h => hahead _ (close h)) (fun _ h => hnot _ (close h))
      (fun _ h => hbehind _ (close h)) (fun _ h => hnotbehind _ (close h))
      (fun _ h => hnamed _ (close h)) fun _ h => hshort _ (close h)]
    exact (kept_openFlags? g s ds₁).weaken (Nat.le_succ _) s' rest h
  · next hahead hnot hbehind hnotbehind hnamed hshort hflags =>
    rw [opened?.eq_8 s ds (fun _ h => hahead _ (close h)) (fun _ h => hnot _ (close h))
      (fun _ h => hbehind _ (close h)) (fun _ h => hnotbehind _ (close h))
      (fun _ h => hnamed _ (close h)) (fun _ h => hshort _ (close h)) fun _ h => hflags _ (close h)]
    exact KeptWithin.left (Nat.le_refl _) s' rest h

theorem kept_openGroup? (g : Group) (s : Place) (cs : List Char) :
    KeptWithin g cs (s.openGroup? cs) ((s.within g).openGroup? (cs ++ [')'])) := by
  show KeptWithin g cs (s.opened? (skip s.here.flags cs))
    ((s.within g).opened? (skip s.here.flags (cs ++ [')'])))
  rcases skip_close s.here.flags cs with hs | ⟨-, hs⟩
  · rw [hs]
    exact (kept_opened? g s _).weaken (length_skip_le s.here.flags cs)
  · rw [hs]
    exact KeptWithin.nil (s.enter s.here.flags)

theorem kept_add {g : Group} {s : Place} {cs : List Char} {alone closed : Option (α × List Char)}
    (h : Kept cs alone closed) (p : α → Part) :
    KeptWithin g cs (alone.map fun r => (s.add (p r.1), r.2))
      (closed.map fun r => ((s.within g).add (p r.1), r.2)) := by
  intro s' rest hr
  obtain ⟨⟨a, r⟩, hc, hb⟩ := Option.map_eq_some_iff.1 hr
  cases hb
  refine ⟨s.add (p a), rfl, (h a r hc).imp_right (·.imp fun left ha => ?_)⟩
  rw [ha]
  rfl

theorem kept_repeatLast? (g : Group) (s : Place) (least : Nat) (most : Option Nat) {cs left : List Char}
    (hle : left.length ≤ cs.length) : KeptWithin g cs ((s.repeatLast? least most).map (·, left))
      (((s.within g).repeatLast? least most).map (·, left ++ [')'])) := by
  intro s' rest h
  rw [repeatLast?_within, Option.map_map] at h
  obtain ⟨t, ht, hs'⟩ := Option.map_eq_some_iff.1 h
  cases hs'
  refine ⟨t, rfl, .inr ⟨left, rfl, hle, ?_⟩⟩
  rw [ht]
  rfl

theorem closeGroup?_within_nil (g : Group) {s : Place} (h : s.outer = []) :
    (s.within g).closeGroup? = some { s with here := g.add s.here.close.grouped, outer := [] } := by
  simp [closeGroup?, within, h]

theorem closeGroup?_within_cons (g : Group) {s : Place} {o : Group} {outer : List Group}
    (h : s.outer = o :: outer) : (s.within g).closeGroup? =
      some (within g { s with here := o.add s.here.close.grouped, outer }) := by
  simp [closeGroup?, within, h]

theorem kept_counted (g : Group) (s : Place) (cs : List Char) :
    KeptWithin g cs (s.step? '\x7b' cs) ((s.within g).step? '\x7b' (cs ++ [')'])) := by
  intro s' rest h
  obtain ⟨⟨least, most, r⟩, hc, h⟩ := Option.bind_eq_some_iff.1 h
  obtain ⟨u, hu, h⟩ := Option.bind_eq_some_iff.1 h
  cases h
  rw [repeatLast?_within] at hu
  obtain ⟨t, ht, rfl⟩ := Option.map_eq_some_iff.1 hu
  refine ⟨t, rfl, ?_⟩
  rcases counts?_close hc with rfl | ⟨left, rfl, hle, ha⟩
  · rw [skip_nil]
    exact .inl rfl
  · have hskip := Nat.le_trans (length_dropLazy_le _) (length_skip_le s.here.flags left)
    rw [within_here] at ha ⊢
    rcases skip_close s.here.flags left with hs | ⟨-, hs⟩
    · rw [hs, dropLazy_close]
      refine .inr ⟨dropLazy (skip s.here.flags left), rfl, Nat.le_trans hskip hle, ?_⟩
      simp [step?, ha, ht]
    · rw [hs]
      exact .inl rfl

/-- **One step inside a group**, by a sign that does not close it, is the step that is taken alone, or the
text is spent. Behind braces that end too early the step is taken, but no other after it. -/
theorem step?_within (g : Group) (s : Place) {c : Char} (hc : c = ')' → s.outer ≠ []) (cs : List Char) :
    KeptWithin g cs (s.step? c cs) ((s.within g).step? c (cs ++ [')'])) ∨
      ∃ (t : Place) (rest : List Char),
        (s.within g).step? c (cs ++ [')']) = some (t.within g, rest) ∧ IsOpenBrace t.here.flags rest := by
  have hsame (t : Place) : KeptWithin g cs (some (t, cs)) (some (t.within g, cs ++ [')'])) :=
    .left (Nat.le_refl _)
  unfold step?
  simp only [within_here]
  split
  · exact .inl (kept_openGroup? g s cs)
  · obtain ⟨o, outer, ho⟩ := List.exists_cons_of_ne_nil (hc rfl)
    have hclose : s.closeGroup? = some { s with here := o.add s.here.close.grouped, outer } := by
      simp [closeGroup?, ho]
    rw [hclose, closeGroup?_within_cons g ho]
    exact .inl (hsame _)
  · exact .inl (hsame { s with here := s.here.bar })
  · exact .inl (kept_add (kept_bracketSet? s.here.flags cs) fun b => ⟨.one b.set, b.depth, false⟩)
  · rw [dropLazy_close]
    exact .inl (kept_repeatLast? g s 0 (some 1) (length_dropLazy_le cs))
  · rw [dropLazy_close]
    exact .inl (kept_repeatLast? g s 0 none (length_dropLazy_le cs))
  · rw [dropLazy_close]
    exact .inl (kept_repeatLast? g s 1 none (length_dropLazy_le cs))
  · exact .inl (kept_counted g s cs)
  · cases dotSet? s.here.flags with
    | none => exact .inl nofun
    | some d => exact .inl (hsame (s.add _))
  · exact .inl (hsame (s.add _))
  · exact .inl (hsame (s.add _))
  · rcases kept_escape? s.here.flags cs with hk | ⟨l, rest, hl, hbrace⟩
    · exact .inl (kept_add hk (signPart s.here.flags))
    · refine .inr ⟨s.add (signPart s.here.flags (.look l)), rest, ?_, hbrace⟩
      rw [hl]
      rfl
  · exact .inl (hsame (s.add _))

/-! ## Whole patterns -/

/-- A closing parenthesis comes, in the rest of a pattern, when no group is open. -/
inductive Strays : Place → List Char → Prop
  | now {s : Place} {cs rest : List Char} (sign : skip s.here.flags cs = ')' :: rest)
      (none_open : s.outer = []) : Strays s cs
  | later {s t : Place} {c : Char} {cs rest left : List Char} (sign : skip s.here.flags cs = c :: rest)
      (step : s.step? c rest = some (t, left)) (strays : Strays t left) : Strays s cs

section Read

variable {s : Place} {c : Char} {cs rest : List Char}

theorem read?_end (n : Nat) (h : skip s.here.flags cs = []) : read? n s cs = some s := by
  unfold read?
  simp only [h]

theorem read?_zero (h : skip s.here.flags cs = c :: rest) : read? 0 s cs = none := by
  unfold read?
  simp only [h]

theorem read?_succ (n : Nat) (h : skip s.here.flags cs = c :: rest) :
    read? (n + 1) s cs = (s.step? c rest).bind fun r => read? n r.1 r.2 := by
  rw [read?]
  simp only [h]
  cases s.step? c rest <;> rfl

/-- The rest of a pattern in which a parenthesis strays cannot be read. -/
theorem Strays.read?_eq_none (h : s.Strays cs) (n : Nat) : read? n s cs = none := by
  induction h generalizing n with
  | now sign none_open =>
    cases n with
    | zero => exact read?_zero sign
    | succ n =>
      rw [read?_succ n sign]
      simp [step?, closeGroup?, none_open]
  | later sign step _ ih =>
    cases n with
    | zero => exact read?_zero sign
    | succ n =>
      rw [read?_succ n sign, step]
      exact ih n

theorem read?_openBrace (h : IsOpenBrace s.here.flags rest) (n : Nat) : read? n s rest = none := by
  obtain ⟨inner, rfl, hskip⟩ := h
  have sign : skip s.here.flags ('\x7b' :: inner) = '\x7b' :: inner := skip_cons _ (by decide) (by decide) _
  cases n with
  | zero => exact read?_zero sign
  | succ n =>
    have hcounts : counts? s.here.flags inner = none := by
      unfold counts?
      rw [hskip, count?_alone]
      rfl
    rw [read?_succ n sign]
    simp [step?, hcounts]

end Read

/-- Where the text ends inside a group, the group is still open. -/
theorem outer_ne_nil_of_end {g : Group} {s t : Place} {n : Nat} {cs : List Char}
    (h : read? n (s.within g) cs = some t) (hend : skip s.here.flags cs = []) : t.outer ≠ [] := by
  rw [read?_end (s := s.within g) n hend] at h
  cases h
  exact within_outer_ne_nil g s

/-- At the end of the text the parenthesis closes the innermost group, which is to be `g`. -/
theorem read?_within_end {g : Group} {s t : Place} {cs : List Char} {m : Nat} (n : Nat)
    (hend : skip s.here.flags cs = []) (hclosed : skip s.here.flags (cs ++ [')']) = [')'])
    (h : read? (m + 1) (s.within g) (cs ++ [')']) = some t) (ht : t.outer = []) :
    ∃ u, read? n s cs = some u ∧ u.outer = [] ∧ t.here = g.add u.here.close.grouped := by
  rw [read?_succ (s := s.within g) m hclosed] at h
  obtain ⟨⟨s', r⟩, hst, h⟩ := Option.bind_eq_some_iff.1 h
  obtain ⟨s'', hclose, hs'⟩ := Option.map_eq_some_iff.1 hst
  cases hs'
  cases ho : s.outer with
  | nil =>
    rw [closeGroup?_within_nil g ho] at hclose
    cases hclose
    rw [read?_end m (skip_nil _)] at h
    cases h
    exact ⟨s, read?_end n hend, ho, rfl⟩
  | cons o outer =>
    rw [closeGroup?_within_cons g ho] at hclose
    cases hclose
    exact absurd ht (outer_ne_nil_of_end h (skip_nil _))

/-- **What is read inside a group up to its parenthesis** is read alone, unless a parenthesis strays. -/
theorem read?_within {g : Group} {s t : Place} {cs : List Char} {m n : Nat} (hn : cs.length ≤ n)
    (h : read? m (s.within g) (cs ++ [')']) = some t) (ht : t.outer = []) : s.Strays cs ∨
      ∃ u, read? n s cs = some u ∧ u.outer = [] ∧ t.here = g.add u.here.close.grouped := by
  induction m generalizing s cs n with
  | zero =>
    rcases skip_close s.here.flags cs with hs | ⟨-, hs⟩
    · obtain ⟨c, ds, hd⟩ := List.exists_cons_of_ne_nil (List.append_ne_nil_of_right_ne_nil
        (skip s.here.flags cs) (List.cons_ne_nil ')' []))
      rw [read?_zero (s := s.within g) (hs.trans hd)] at h
      cases h
    · exact absurd ht (outer_ne_nil_of_end h hs)
  | succ m ih =>
    have hlen := length_skip_le s.here.flags cs
    rcases skip_close s.here.flags cs with hs | ⟨-, hs⟩
    · cases hd : skip s.here.flags cs with
      | nil =>
        rw [hd] at hs
        exact .inr (read?_within_end n hd hs h ht)
      | cons c ds =>
        rw [hd] at hs hlen
        rw [read?_succ (s := s.within g) m hs] at h
        by_cases hstray : c = ')' ∧ s.outer = []
        · obtain ⟨rfl, hout⟩ := hstray
          exact .inl (.now hd hout)
        have hc : c = ')' → s.outer ≠ [] := fun hc ho => hstray ⟨hc, ho⟩
        obtain ⟨⟨s', r⟩, hst, h⟩ := Option.bind_eq_some_iff.1 h
        rcases step?_within g s hc ds with hk | ⟨u, rest, hu, hbrace⟩
        · obtain ⟨u, rfl, rfl | ⟨left, rfl, hle, ha⟩⟩ := hk s' r hst
          · exact absurd ht (outer_ne_nil_of_end h (skip_nil _))
          · obtain ⟨n, rfl⟩ := Nat.exists_eq_add_of_lt (Nat.lt_of_lt_of_le hlen hn)
            have hn' : left.length ≤ ds.length + n := Nat.le_trans hle (Nat.le_add_right _ n)
            refine (ih hn' h).imp (fun hstray => .later hd ha hstray) fun ⟨v, hv, hout, hhere⟩ =>
              ⟨v, ?_, hout, hhere⟩
            rw [read?_succ _ hd, ha]
            exact hv
        · cases hu.symm.trans hst
          rw [read?_openBrace (s := u.within g) hbrace] at h
          cases h
    · exact absurd ht (outer_ne_nil_of_end h hs)

end Place

/-- The text of a pattern that is put into a group behind `^`. -/
def enclosed (cs : List Char) : List Char := '^' :: '(' :: '?' :: ':' :: (cs ++ [')'])

/-- The group of a pattern behind `^`, with nothing read of it yet. -/
def lineGroup : Group := (Group.start Flags.initial).add (Part.leaf (.look .textStart))

theorem read?_enclosed (n : Nat) (cs : List Char) : Place.read? (n + 2) Place.start (enclosed cs) =
    Place.read? n (Place.start.within lineGroup) (cs ++ [')']) := rfl

theorem close_lineGroup (p : Part) : (lineGroup.add p.grouped).close =
    ⟨.seq (.look .textStart) p.pattern, p.depth + 2, false⟩ := rfl

/-- **A pattern put into a group behind `^`**, if it can be read so, is read as it is alone, behind a look
for the start of the text; unless a parenthesis strays. -/
theorem parse?_enclosed {cs : List Char} {a : Pattern} (h : parse? (enclosed cs) = some a) :
    Place.start.Strays cs ∨ ∃ q, parse? cs = some q ∧ a = .seq (.look .textStart) q := by
  obtain ⟨t, hread, h⟩ := Option.bind_eq_some_iff.1 h
  have hlen : (enclosed cs).length = cs.length + 3 + 2 := by simp [enclosed]
  rw [hlen, read?_enclosed] at hread
  dsimp only at h
  split at h
  · next hok =>
    cases h
    simp only [Bool.and_eq_true, List.isEmpty_iff, decide_eq_true_eq] at hok
    obtain ⟨⟨hout, hdepth⟩, hsize⟩ := hok
    refine (Place.read?_within (Nat.le_refl _) hread hout).imp_right fun ⟨u, hu, hout', hhere⟩ => ?_
    rw [hhere, close_lineGroup] at hdepth hsize ⊢
    refine ⟨u.here.close.pattern, ?_, rfl⟩
    have hd : u.here.close.depth ≤ maxDepth := Nat.le_of_succ_le (Nat.le_of_succ_le hdepth)
    have hs : u.here.close.pattern.size ≤ maxSize := Nat.le_trans (Nat.le_add_left _ _) hsize
    unfold parse?
    rw [hu]
    simp [hout', hd, hs]
  · cases h

theorem parse?_eq_none_of_strays {cs : List Char} (h : Place.start.Strays cs) : parse? cs = none := by
  unfold parse?
  rw [h.read?_eq_none]
  rfl

end Seph.Pattern
