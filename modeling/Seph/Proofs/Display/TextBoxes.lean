import Seph.Proofs.Display.Reading

/-!
# Texts and their boxes

Characters, labels and bitmaps are read in any order, with clearings of the screen and takings of the
texts in between. If all edges lie in reach of 16 bits, every text is told in the smallest box around
what it was put together from.

1. `ScreenText.reading_after`: any operations lead to a reading.
2. `ScreenText.grouped_run`: no piece is lost or read twice, and no box is larger than it has to be.
3. `ScreenText.texts_of_pieces`: and a piece goes on the latest text exactly when it lies next to it.
-/

namespace Seph

namespace Box

/-- The edges can be told in 16 bits. -/
def Fits (b : Box) : Prop := b.right ≤ 65535 ∧ b.bottom ≤ 65535

instance (b : Box) : Decidable b.Fits := inferInstanceAs (Decidable (_ ∧ _))

variable {a b : Box} {bs : List Box}

theorem fits_iff_inside : b.Fits ↔ b.Inside ⟨0, 0, 65535, 65535⟩ := by
  simp only [Fits, Inside]
  omega

theorem Fits.join (ha : a.Fits) (hb : b.Fits) : (a.join b).Fits :=
  fits_iff_inside.2 (join_inside_iff.2 ⟨fits_iff_inside.1 ha, fits_iff_inside.1 hb⟩)

theorem Smallest.fits (h : b.Smallest bs) (hbs : ∀ a ∈ bs, a.Fits) : b.Fits :=
  fits_iff_inside.2 (h.least _ fun a ha => fits_iff_inside.1 (hbs a ha))

/-- A box whose edges are in reach can be told, if it begins where its edges are. -/
theorem Fits.tellable (h : b.Fits) (hx : b.left ≤ 65535) (hy : b.top ≤ 65535) : b.Tellable := by
  unfold Fits Tellable at *
  omega

end Box

/-- The piece that an operation adds: a character, a label, or the character that a bitmap shows. -/
def ScreenText.Op.piece? (o : ScreenText.Op) : Option Piece :=
  match o.act with
  | .char p => some p.piece
  | .label e => some e.piece
  | .clear | .take | .nothing => none

namespace TextEvent

/-- The text was put together from pieces, and its box is the smallest around theirs. -/
structure Merges (e : TextEvent) (ps : List Piece) : Prop where
  text : e.text.toList = ps.flatMap fun p => p.text.toList
  box : e.box.Smallest (ps.map Piece.box)

variable {e : TextEvent} {p : ScreenText.Placed} {ps : List Piece}

theorem Merges.fits (h : e.Merges ps) (hps : ∀ q ∈ ps, q.box.Fits) : e.box.Fits := by
  apply h.box.fits
  intro a ha
  obtain ⟨q, hq, rfl⟩ := List.mem_map.1 ha
  exact hps q hq

/-- A box around pieces that are told and in reach is told as well. -/
theorem Gathers.merges (h : e.Gathers ps) (hps : ∀ q ∈ ps, q.box.Fits ∧ q.box.Tellable) :
    e.Merges ps where
  text := h.text
  box := by
    obtain ⟨b, hb, he⟩ := h.box
    have hfits : b.Fits := by
      apply hb.fits
      intro a ha
      obtain ⟨q, hq, rfl⟩ := List.mem_map.1 ha
      exact (hps q hq).1
    obtain ⟨a, ha⟩ := hb.exists_mem
    obtain ⟨q, hq, rfl⟩ := List.mem_map.1 ha
    have hin := hb.around q.box ha
    have ht := (hps q hq).2
    have hbt := hfits.tellable (Nat.le_trans hin.1.1 ht.1.1) (Nat.le_trans hin.2.1 ht.2.1)
    rw [he hbt fun q hq => (hps q hq).2]
    exact hb

theorem box_extend_of_fits (hx : e.box.left ≤ p.piece.box.left) (he : e.box.Fits)
    (hp : p.piece.box.Fits) :
    (e.extend p.char p.x p.y p.width p.height).box = e.box.join p.piece.box := by
  have ht : e.box.Tellable := Box.tellable_sized _ _ _ _
  have hin := Box.inside_join_left e.box p.piece.box
  exact box_extend hx
    ((he.join hp).tellable (Nat.le_trans hin.1.1 ht.1.1) (Nat.le_trans hin.2.1 ht.2.1))

end TextEvent

namespace ScreenText

open TextEvent (Gathers Merges Near)

/-! ## Runs -/

section Runs

variable {gs : List (List Piece)}

theorem act_of_piece? {o : Op} {q : Piece} (hq : o.piece? = some q) :
    (∃ p, o.act = .char p ∧ p.piece = q) ∨ ∃ e, o.act = .label e ∧ e.piece = q := by
  unfold Op.piece? at hq
  split at hq
  · rename_i p ha
    exact .inl ⟨p, ha, Option.some.inj hq⟩
  · rename_i e ha
    exact .inr ⟨e, ha, Option.some.inj hq⟩
  all_goals cases hq

theorem tellable_of_piece? {o : Op} {q : Piece} (hq : o.piece? = some q) : q.box.Tellable := by
  rcases act_of_piece? hq with ⟨p, -, rfl⟩ | ⟨e, -, rfl⟩
  · exact Box.tellable_sized _ _ _ _
  · exact Box.tellable_sized _ _ _ _

theorem taken_concat (s : ScreenText) (os : List Op) (o : Op) :
    s.taken (os ++ [o]) = s.taken os ++ ((s.after os).step o).1 := by
  induction os generalizing s with
  | nil => exact List.append_nil _
  | cons _ os ih => rw [List.cons_append, taken, ih, taken, List.append_assoc, after_cons]

theorem after_concat (s : ScreenText) (os : List Op) (o : Op) :
    s.after (os ++ [o]) = ((s.after os).step o).2 := List.foldl_append

/-- **Any operations lead to a reading.** -/
theorem reading_after (maxGap : Nat) (os : List Op) :
    Reading maxGap (os.filterMap Op.piece?) ((empty maxGap).taken os) ((empty maxGap).after os) := by
  induction os using List.reverseRecOn with
  | nil => exact .start
  | append_singleton os o ih =>
    rw [filterMap_concat, taken_concat, after_concat, step_eq, Op.piece?]
    cases o.act with
    | char p => exact (Reading.char p ih).taken_append_nil
    | label e => exact (Reading.label e.shows_piece ih).taken_append_nil
    | clear => exact ih.append_nil.clear.taken_append_nil
    | take => exact ih.append_nil.take
    | nothing => exact ih.append_nil.taken_append_nil

theorem merges_of_gathers {es : List TextEvent} (h : List.Forall₂ Gathers es gs)
    (hgs : ∀ q ∈ gs.flatten, q.box.Fits ∧ q.box.Tellable) : List.Forall₂ Merges es gs := by
  induction h with
  | nil => exact .nil
  | cons hm _ ih =>
    rw [List.flatten_cons] at hgs
    exact .cons (hm.merges fun q hq => hgs q (List.mem_append_left _ hq))
      (ih fun q hq => hgs q (List.mem_append_right _ hq))

/-- **No piece is lost or read twice.** The texts of a run are put together from the pieces of the
operations, in order. -/
theorem grouped_run (maxGap : Nat) {os : List Op} (hos : ∀ o ∈ os, ∀ q, o.piece? = some q → q.box.Fits) :
    ∃ groups, groups.flatten = os.filterMap Op.piece? ∧
      List.Forall₂ Merges ((empty maxGap).texts os) groups := by
  obtain ⟨groups, hflat, hg⟩ := (reading_after maxGap os).groups
  refine ⟨groups, hflat, merges_of_gathers hg fun q hq => ?_⟩
  rw [hflat] at hq
  obtain ⟨o, ho, hp⟩ := List.mem_filterMap.1 hq
  exact ⟨hos o ho q hp, tellable_of_piece? hp⟩

theorem flatMap_text {es : List TextEvent} (h : List.Forall₂ Merges es gs) :
    es.flatMap (fun e => e.text.toList) = gs.flatten.flatMap fun p => p.text.toList := by
  induction h with
  | nil => rfl
  | cons he _ ih => rw [List.flatMap_cons, List.flatten_cons, List.flatMap_append, he.text, ih]

theorem fits_of_mem {es : List TextEvent} {e : TextEvent} (h : List.Forall₂ Merges es gs)
    (hgs : ∀ q ∈ gs.flatten, q.box.Fits) (he : e ∈ es) : e.box.Fits := by
  induction h with
  | nil => cases he
  | cons hm _ ih =>
    rw [List.flatten_cons] at hgs
    rcases List.mem_cons.1 he with rfl | he
    · exact hm.fits fun q hq => hgs q (List.mem_append_left _ hq)
    · exact ih (fun q hq => hgs q (List.mem_append_right _ hq)) he

end Runs

/-! ## Steps -/

/-- What an operation adds goes on a text: it is a character next to it. -/
def Op.Continues (o : Op) (maxGap : Nat) (e : TextEvent) : Prop :=
  ∃ p, o.act = .char p ∧ e.Near maxGap p

section Steps

variable {s : ScreenText} {o : Op} {q : Piece}

/-- **What goes on the latest text makes it longer**, and its box no larger than it must. -/
theorem step_of_continues {older : List TextEvent} {e : TextEvent} (hs : s.events = older ++ [e])
    (he : e.box.Fits) (hq : o.piece? = some q) (hqf : q.box.Fits) (h : o.Continues s.maxGap e) :
    ∃ e', (s.step o).2.events = older ++ [e'] ∧
      e'.text.toList = e.text.toList ++ q.text.toList ∧ e'.box.Smallest [e.box, q.box] := by
  obtain ⟨p, ha, hn⟩ := h
  have hp : p.piece = q := by
    rw [Op.piece?, ha] at hq
    exact Option.some.inj hq
  subst hp
  have hl : s.latest = e :: older.reverse := by
    rw [← List.reverse_reverse s.latest]
    show s.events.reverse = _
    rw [hs, List.reverse_append]
    rfl
  refine ⟨e.extend p.char p.x p.y p.width p.height, ?_, ?_, ?_⟩
  · rw [step_eq, ha]
    show (s.place p).events = _
    rw [place_of_continues hl ((continues_iff hl).2 hn), events, List.reverse_cons,
      List.reverse_reverse]
  · rw [toList_text_extend]
    exact congrArg _ (String.toList_singleton p.char).symm
  · rw [TextEvent.box_extend_of_fits hn.1 he hqf]
    exact (Box.Smallest.single e.box).add p.piece.box

/-- **What does not is a text of its own.** -/
theorem step_of_not_continues (hq : o.piece? = some q)
    (h : ∀ older e, s.events = older ++ [e] → ¬ o.Continues s.maxGap e) :
    ∃ e', (s.step o).2.events = s.events ++ [e'] ∧ e'.piece = q := by
  have added (e : TextEvent) : (s.addEvent e).events =
      s.events ++ [{ e with clear := e.clear || s.cleared }] := List.reverse_cons
  rcases act_of_piece? hq with ⟨p, ha, rfl⟩ | ⟨e, ha, rfl⟩
  · have hc : s.continues p = false := by
      cases hl : s.latest with
      | nil =>
        rw [continues, hl]
        rfl
      | cons e older =>
        have hs : s.events = older.reverse ++ [e] := by rw [events, hl, List.reverse_cons]
        have hn : ¬ e.Near s.maxGap p := fun hn => h _ e hs ⟨p, ha, hn⟩
        exact Bool.eq_false_iff.2 fun hc => hn ((continues_iff hl).1 hc)
    rw [step_eq, ha]
    show ∃ e', (s.place p).events = _ ∧ _
    rw [place_of_not_continues hc]
    exact ⟨_, added _, rfl⟩
  · rw [step_eq, ha]
    exact ⟨_, added e, rfl⟩

end Steps

/-- **What is read is kept, in the smallest boxes around it.** Let characters, labels, bitmaps, clearings
of the screen and takings of the texts come in any order, with all edges of what is read in reach of 16
bits. Then the texts that were taken, and after them those that wait, say what was read, in order; each
is put together from pieces that follow each other, and its box is the smallest rectangle around theirs.
At each piece the latest text that waits becomes longer exactly when the piece is a character next to it:
not left of it, less than `maxGap` behind it, and level with it. Otherwise the piece is a new text. -/
theorem texts_of_pieces (maxGap : Nat) (os : List Op)
    (fits : ∀ o ∈ os, ∀ q, o.piece? = some q → q.box.Fits) :
    let s := empty maxGap
    ((s.texts os).flatMap (fun e => e.text.toList) =
      (os.filterMap Op.piece?).flatMap fun q => q.text.toList) ∧
    (∃ groups, groups.flatten = os.filterMap Op.piece? ∧ List.Forall₂ Merges (s.texts os) groups) ∧
    ∀ before o after q, os = before ++ o :: after → o.piece? = some q →
      let waiting := (s.after before).events
      let waiting' := (s.after (before ++ [o])).events
      (∀ older e, waiting = older ++ [e] → o.Continues maxGap e → ∃ e', waiting' = older ++ [e'] ∧
        e'.text.toList = e.text.toList ++ q.text.toList ∧ e'.box.Smallest [e.box, q.box]) ∧
      ((∀ older e, waiting = older ++ [e] → ¬ o.Continues maxGap e) →
        ∃ e', waiting' = waiting ++ [e'] ∧ e'.piece = q) := by
  intro s
  have grouped {os : List Op} (fits : ∀ o ∈ os, ∀ q, o.piece? = some q → q.box.Fits) :
      ∃ groups, groups.flatten = os.filterMap Op.piece? ∧ List.Forall₂ Merges (s.texts os) groups :=
    grouped_run maxGap fits
  refine ⟨?_, grouped fits, ?_⟩
  · obtain ⟨groups, hflat, hm⟩ := grouped fits
    rw [flatMap_text hm, hflat]
  · intro before o after q hos hq waiting waiting'
    subst hos
    have hgap : (s.after before).maxGap = maxGap := maxGap_after s before
    have hnext : waiting' = ((s.after before).step o).2.events := by
      show (s.after (before ++ [o])).events = _
      rw [ScreenText.after, List.foldl_append]
      rfl
    have hqf : q.box.Fits := fits o (List.mem_append_right _ List.mem_cons_self) q hq
    have hfits : ∀ e ∈ waiting, e.box.Fits := by
      intro e he
      obtain ⟨groups, hflat, hm⟩ := grouped fun o ho => fits o (List.mem_append_left _ ho)
      apply fits_of_mem hm _ (List.mem_append_right _ he)
      intro r hr
      rw [hflat] at hr
      obtain ⟨o', ho', hr⟩ := List.mem_filterMap.1 hr
      exact fits o' (List.mem_append_left _ ho') r hr
    rw [hnext]
    constructor
    · intro older e hw hc
      have he : e.box.Fits := hfits e (hw ▸ List.mem_append_right _ (List.mem_singleton.2 rfl))
      exact step_of_continues hw he hq hqf (hgap.symm ▸ hc)
    · intro hn
      exact step_of_not_continues hq (hgap.symm ▸ hn)

/-- Two characters next to each other and a blank bitmap behind them are one text, in the smallest box
around the three; a label at the same place is another. -/
theorem texts_of_word :
    let os : List Op := [.char ⟨'O', 10, 20, 6, 8⟩, .clear, .char ⟨'k', 16, 21, 6, 8⟩,
      .bitmap [] 33 20 6 8, .label ⟨"Ok", 10, 20, 12, 8, false⟩, .take]
    let s := empty Model.nanoX.maxGap
    (∀ o ∈ os, ∀ q, o.piece? = some q → q.box.Fits) ∧
    ((s.texts os).flatMap (fun e => e.text.toList) = "Ok Ok".toList) ∧
    (∃ groups, groups.flatten = os.filterMap Op.piece? ∧ List.Forall₂ Merges (s.texts os) groups) ∧
    (∃ e', (s.after (os.take 4)).events = [e'] ∧ e'.text.toList = "Ok".toList ++ " ".toList ∧
      e'.box.Smallest [⟨10, 20, 22, 29⟩, ⟨33, 20, 39, 28⟩]) ∧
    ∃ e', (s.after (os.take 5)).events = (s.after (os.take 4)).events ++ [e'] ∧
      e'.piece = ⟨"Ok", ⟨10, 20, 22, 28⟩⟩ := by
  intro os s
  have fits : ∀ o ∈ os, ∀ q, o.piece? = some q → q.box.Fits := by
    have h : ∀ o ∈ os, ∀ q ∈ o.piece?.toList, q.box.Fits := by decide
    exact fun o ho q hq => h o ho q (Option.mem_toList.2 hq)
  obtain ⟨htext, hgroups, hstep⟩ := texts_of_pieces Model.nanoX.maxGap os fits
  have blank := (hstep (os.take 3) (.bitmap [] 33 20 6 8) (os.drop 4) _ rfl rfl).1 []
    ⟨"Ok", 10, 20, 12, 9, false⟩ (by decide)
    ⟨⟨' ', 33, 20, 6, 8⟩, rfl, TextEvent.continuedBy_iff.1 (by decide)⟩
  have label := (hstep (os.take 4) (.label ⟨"Ok", 10, 20, 12, 8, false⟩) (os.drop 5) _ rfl rfl).2
    fun _ _ _ ⟨_, h, _⟩ => by cases h
  exact ⟨fits, htext.trans (by decide), hgroups, blank, label⟩

end ScreenText
end Seph
