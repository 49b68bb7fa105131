import Seph.Display.ScreenText
import Seph.Model

/-!
# Texts before and after a clearing

A clearing of the screen parts the texts read before it from those read after it, unless the first
text after it is a character that goes on the last text before it: then that text becomes longer, and
is not marked.

1. `ScreenText.step_eq`: what an operation comes to; a bitmap is the character that it shows, or nothing.
2. `ScreenText.texts_withOlder`: texts behind the latest one have no influence on what is read later.
3. `ScreenText.texts_of_latest`: the latest text can only become longer, and keeps its mark.
4. `ScreenText.texts_after_clear`: when a clearing parts the texts, and what happens when it does not.
-/

namespace Seph.ScreenText

/-! ## Operations -/

/-- A character and its box. -/
structure Placed where
  char : Char
  x : UInt16
  y : UInt16
  width : UInt16
  height : UInt16
  deriving DecidableEq, Repr

/-- What can be done with the text on the screen. -/
inductive Op
  | char (p : Placed)
  | label (e : TextEvent)
  | bitmap (bs : Bytes) (x y w h : UInt16)
  | clear
  | take
  deriving DecidableEq, Repr

def place (s : ScreenText) (p : Placed) : ScreenText := s.addChar p.char p.x p.y p.width p.height

/-- The texts that an operation takes out, and what is left. -/
def step (s : ScreenText) : Op → List TextEvent × ScreenText
  | .char p => ([], s.place p)
  | .label e => ([], s.addEvent e)
  | .bitmap bs x y w h => ([], (s.addBitmap bs x y w h).getD s)
  | .clear => ([], s.clearScreen)
  | .take => s.take

def after (s : ScreenText) (os : List Op) : ScreenText := os.foldl (fun s o => (s.step o).2) s

/-- The texts that operations take out. -/
def taken (s : ScreenText) : List Op → List TextEvent
  | [] => []
  | o :: os => (s.step o).1 ++ taken (s.step o).2 os

/-- All texts of a run in the order of reading: those that it takes out, and then those that wait. -/
def texts (s : ScreenText) (os : List Op) : List TextEvent := s.taken os ++ (s.after os).events

/-- What an operation comes to. -/
inductive Act
  | char (p : Placed)
  | label (e : TextEvent)
  | clear
  | take
  | nothing
  deriving DecidableEq, Repr

/-- A bitmap comes to the character that it shows, or to nothing. -/
def Op.act : Op → Act
  | .char p => .char p
  | .label e => .label e
  | .bitmap bs x y w h =>
    match Glyph.recognize bs w.toNat h.toNat with
    | some c => .char ⟨c, x, y, w, h⟩
    | none => .nothing
  | .clear => .clear
  | .take => .take

/-- The text that an operation adds, if it adds one. -/
def Op.added? (o : Op) : Option String :=
  match o.act with
  | .char p => some p.char.toString
  | .label e => some e.text
  | .clear | .take | .nothing => none

/-- The first text that operations add. -/
def firstAdded? (os : List Op) : Option String := os.findSome? Op.added?

/-- The character goes on the latest text. -/
def continues (s : ScreenText) (p : Placed) : Bool :=
  s.latest.head?.any fun e => e.continuedBy s.maxGap p.x p.y p.height

/-- Before the texts are taken out, operations add a character that goes on the latest text, and no
text before it. -/
def firstContinues (s : ScreenText) : List Op → Bool
  | [] => false
  | o :: os =>
    match o.act with
    | .char p => s.continues p
    | .clear | .nothing => firstContinues s os
    | .label _ | .take => false

/-! ## Steps -/

section Steps

variable (s : ScreenText) (o : Op) (os : List Op)

theorem step_eq : s.step o =
    match o.act with
    | .char p => ([], s.place p)
    | .label e => ([], s.addEvent e)
    | .clear => ([], s.clearScreen)
    | .take => s.take
    | .nothing => ([], s) := by
  cases o with
  | bitmap bs x y w h =>
    simp only [step, Op.act, addBitmap]
    cases Glyph.recognize bs w.toNat h.toNat <;> rfl
  | char | label | clear | take => rfl

@[simp] theorem after_nil : s.after [] = s := rfl

@[simp] theorem after_cons : s.after (o :: os) = (s.step o).2.after os := rfl

@[simp] theorem texts_nil : s.texts [] = s.events := rfl

theorem texts_cons : s.texts (o :: os) = (s.step o).1 ++ (s.step o).2.texts os := by
  rw [texts, taken, after_cons, List.append_assoc, texts]

theorem texts_append (ps : List Op) : s.texts (os ++ ps) = s.taken os ++ (s.after os).texts ps := by
  induction os generalizing s with
  | nil => rfl
  | cons o os ih => rw [List.cons_append, texts_cons, ih, taken, after_cons, List.append_assoc]

theorem place_of_not_continues {s : ScreenText} {p : Placed} (h : s.continues p = false) :
    s.place p = s.addEvent ⟨p.char.toString, p.x, p.y, p.width, p.height, false⟩ := by
  unfold place addChar
  split
  · rename_i e older hl
    rw [continues, hl] at h
    exact if_neg (ne_true_of_eq_false h)
  · rfl

theorem place_of_continues {s : ScreenText} {p : Placed} {e : TextEvent} {older : List TextEvent}
    (hl : s.latest = e :: older) (h : s.continues p = true) :
    s.place p = { s with latest := e.extend p.char p.x p.y p.width p.height :: older } := by
  have hc : e.continuedBy s.maxGap p.x p.y p.height = true := by rwa [continues, hl] at h
  unfold place addChar
  rw [hl]
  exact if_pos hc

theorem maxGap_step : (s.step o).2.maxGap = s.maxGap := by
  rw [step_eq]
  split
  · rename_i p _
    cases h : s.continues p with
    | false => rw [place_of_not_continues h]; rfl
    | true =>
      cases hl : s.latest with
      | nil => rw [continues, hl] at h; cases h
      | cons e older => rw [place_of_continues hl h]
  all_goals rfl

theorem maxGap_after : (s.after os).maxGap = s.maxGap := by
  induction os generalizing s with
  | nil => rfl
  | cons o os ih => rw [after_cons, ih, maxGap_step]

end Steps

/-! ## Texts behind the latest one -/

/-- The texts with older ones behind them. -/
def withOlder (s : ScreenText) (older : List TextEvent) : ScreenText :=
  { s with latest := s.latest ++ older }

section Behind

variable {s : ScreenText} {older : List TextEvent} {p : Placed} {os : List Op}

theorem events_withOlder : (s.withOlder older).events = older.reverse ++ s.events := List.reverse_append

theorem continues_withOlder (h : s.latest ≠ []) : (s.withOlder older).continues p = s.continues p := by
  cases hl : s.latest with
  | nil => exact absurd hl h
  | cons e newer => simp only [continues, withOlder, hl, List.cons_append, List.head?_cons]

theorem place_withOlder (h : s.latest ≠ [] ∨ (s.withOlder older).continues p = false) :
    (s.withOlder older).place p = (s.place p).withOlder older := by
  cases hl : s.latest with
  | nil =>
    have hs : s.continues p = false := by rw [continues, hl]; rfl
    rw [place_of_not_continues hs, place_of_not_continues (h.resolve_left fun hn => hn hl)]
    rfl
  | cons e newer =>
    have hb : (s.withOlder older).latest = e :: (newer ++ older) := by rw [withOlder, hl]; rfl
    have hc : (s.withOlder older).continues p = s.continues p :=
      continues_withOlder (List.ne_nil_of_mem (hl ▸ List.mem_cons_self))
    cases hs : s.continues p with
    | false => rw [place_of_not_continues hs, place_of_not_continues (hc.trans hs)]; rfl
    | true => rw [place_of_continues hl hs, place_of_continues hb (hc.trans hs)]; rfl

theorem latest_place_ne_nil : (s.place p).latest ≠ [] := by
  cases hs : s.continues p with
  | false => rw [place_of_not_continues hs]; exact List.cons_ne_nil _ _
  | true =>
    cases hl : s.latest with
    | nil => rw [continues, hl] at hs; cases hs
    | cons e newer => rw [place_of_continues hl hs]; exact List.cons_ne_nil _ _

/-- Whether the first text goes on the latest one does not depend on a clearing. -/
theorem firstContinues_clearScreen : s.clearScreen.firstContinues os = s.firstContinues os := by
  induction os with
  | nil => rfl
  | cons o os ih =>
    rw [firstContinues, firstContinues, ih]
    cases o.act <;> rfl

/-- Texts behind the latest one have no influence on what is read later; nor have any, if the first
text that is added does not go on them. -/
theorem texts_withOlder (h : s.latest ≠ [] ∨ (s.withOlder older).firstContinues os = false) :
    (s.withOlder older).texts os = older.reverse ++ s.texts os := by
  induction os generalizing s with
  | nil => exact events_withOlder
  | cons o os ih =>
    rw [texts_cons, texts_cons, step_eq, step_eq]
    rw [firstContinues] at h
    cases ha : o.act with
    | char p =>
      rw [ha] at h
      show ((s.withOlder older).place p).texts os = older.reverse ++ (s.place p).texts os
      rw [place_withOlder h]
      exact ih (.inl latest_place_ne_nil)
    | label e => exact ih (s := s.addEvent e) (.inl (List.cons_ne_nil _ _))
    | clear =>
      rw [ha] at h
      exact ih (s := s.clearScreen) (h.imp_right firstContinues_clearScreen.trans)
    | take =>
      show (s.withOlder older).events ++ s.take.2.texts os =
        older.reverse ++ (s.events ++ s.take.2.texts os)
      rw [events_withOlder, List.append_assoc]
    | nothing =>
      rw [ha] at h
      exact ih h

end Behind

/-! ## The latest text -/

section Latest

variable {s : ScreenText} {e : TextEvent} {older : List TextEvent} {os : List Op}

theorem toList_text_extend (e : TextEvent) (c : Char) (x y w h : UInt16) :
    (e.extend c x y w h).text.toList = e.text.toList ++ [c] := String.toList_push c

/-- The latest text can only become longer, and keeps its mark. -/
theorem texts_of_latest (hl : s.latest = e :: older) (os : List Op) :
    ∃ e' more, s.texts os = older.reverse ++ e' :: more ∧ e'.clear = e.clear ∧
      e.text.toList <+: e'.text.toList := by
  have events {s : ScreenText} {e : TextEvent} (hl : s.latest = e :: older) :
      s.events = older.reverse ++ [e] := by rw [ScreenText.events, hl, List.reverse_cons]
  induction os generalizing s e with
  | nil => exact ⟨e, [], events hl, rfl, List.prefix_rfl⟩
  | cons o os ih =>
    -- a text that is added is in front of the latest one, and can be left out
    have added (new : TextEvent) : ∃ e' more, (s.addEvent new).texts os = older.reverse ++ e' :: more ∧
        e'.clear = e.clear ∧ e.text.toList <+: e'.text.toList := by
      have hs : s.addEvent new = ({ s with latest := [] }.addEvent new).withOlder (e :: older) := by
        rw [addEvent, hl]
        rfl
      refine ⟨e, ({ s with latest := [] }.addEvent new).texts os, ?_, rfl, List.prefix_rfl⟩
      rw [hs, texts_withOlder (.inl (List.cons_ne_nil _ _)), List.reverse_cons, List.append_assoc]
      rfl
    rw [texts_cons, step_eq]
    cases ha : o.act with
    | char p =>
      show ∃ e' more, (s.place p).texts os = _ ∧ _
      cases hc : s.continues p with
      | false =>
        rw [place_of_not_continues hc]
        exact added _
      | true =>
        rw [place_of_continues hl hc]
        obtain ⟨e', more, ht, hm, hp⟩ := ih (s := { s with
          latest := e.extend p.char p.x p.y p.width p.height :: older }) rfl
        refine ⟨e', more, ht, hm, List.IsPrefix.trans ?_ hp⟩
        rw [toList_text_extend]
        exact List.prefix_append _ _
    | label new => exact added new
    | clear => exact ih (s := s.clearScreen) hl
    | take =>
      refine ⟨e, s.take.2.texts os, ?_, rfl, List.prefix_rfl⟩
      show s.events ++ _ = _
      rw [events hl, List.append_assoc]
      rfl
    | nothing => exact ih hl

theorem texts_of_firstContinues (hl : s.latest = e :: older) (h : s.firstContinues os = true) :
    ∃ e' more c, s.texts os = older.reverse ++ e' :: more ∧ firstAdded? os = some c.toString ∧
      e'.clear = e.clear ∧ e.text.toList ++ [c] <+: e'.text.toList := by
  induction os generalizing s with
  | nil => cases h
  | cons o os ih =>
    rw [firstContinues] at h
    rw [texts_cons, step_eq, firstAdded?, List.findSome?_cons, Op.added?]
    cases ha : o.act with
    | char p =>
      rw [ha] at h
      show ∃ e' more c, (s.place p).texts os = _ ∧ _
      rw [place_of_continues hl h]
      obtain ⟨e', more, ht, hm, hp⟩ := texts_of_latest (s := { s with
        latest := e.extend p.char p.x p.y p.width p.height :: older }) rfl os
      rw [toList_text_extend] at hp
      exact ⟨e', more, p.char, ht, rfl, hm, hp⟩
    | clear =>
      rw [ha] at h
      exact ih (s := s.clearScreen) hl (firstContinues_clearScreen.trans h)
    | nothing =>
      rw [ha] at h
      exact ih hl h
    | label | take =>
      rw [ha] at h
      cases h

theorem firstContinues_of_nil (hl : s.latest = []) (os : List Op) : s.firstContinues os = false := by
  induction os with
  | nil => rfl
  | cons o os ih =>
    rw [firstContinues]
    cases o.act with
    | char p => show s.continues p = false; rw [continues, hl]; rfl
    | clear | nothing => exact ih
    | label | take => rfl

theorem texts_of_cleared {t : String} (hl : s.latest = []) (hc : s.cleared = true)
    (h : firstAdded? os = some t) :
    ∃ e more, s.texts os = e :: more ∧ e.clear = true ∧ t.toList <+: e.text.toList := by
  induction os generalizing s with
  | nil => cases h
  | cons o os ih =>
    have added (e : TextEvent) : ∃ e' more, (s.addEvent e).texts os = e' :: more ∧ e'.clear = true ∧
        e.text.toList <+: e'.text.toList := by
      have hs : (s.addEvent e).latest = [{ e with clear := e.clear || s.cleared }] := by
        rw [addEvent, hl]
      obtain ⟨e', more, ht, hm, hp⟩ := texts_of_latest hs os
      exact ⟨e', more, ht, by rw [hm, hc, Bool.or_true], hp⟩
    rw [firstAdded?, List.findSome?_cons, Op.added?] at h
    rw [texts_cons, step_eq]
    cases ha : o.act with
    | char p =>
      rw [ha] at h
      cases h
      have hn : s.continues p = false := by rw [continues, hl]; rfl
      show ∃ e more, (s.place p).texts os = _ ∧ _
      rw [place_of_not_continues hn]
      exact added _
    | label e =>
      rw [ha] at h
      cases h
      exact added e
    | clear =>
      rw [ha] at h
      exact ih (s := s.clearScreen) hl rfl h
    | take =>
      rw [ha] at h
      obtain ⟨e, more, ht, hm⟩ := ih (s := s.take.2) rfl hc h
      refine ⟨e, more, ?_, hm⟩
      show s.events ++ s.take.2.texts os = _
      rw [ht, ScreenText.events, hl]
      rfl
    | nothing =>
      rw [ha] at h
      exact ih hl hc h

end Latest

/-! ## Clearings -/

/-- **When a clearing parts the texts.** The texts of a run with a clearing are those of the operations
before it, unchanged, followed by those that the clearing and the operations behind it give on an empty
screen, exactly when the first text added after it is not a character that goes on the latest text. The
first text on the empty screen begins with the first text added, and is marked. But when a character
goes on the latest text, that text holds it too, and is marked only if it was before. -/
theorem texts_after_clear (maxGap : Nat) (before after : List Op) :
    let s := empty maxGap
    let last := s.after before
    (s.texts (before ++ .clear :: after) = s.texts before ++ s.texts (.clear :: after) ↔
      last.firstContinues after = false) ∧
    (∀ t, firstAdded? after = some t → ∃ e more, s.texts (.clear :: after) = e :: more ∧
      e.clear = true ∧ t.toList <+: e.text.toList) ∧
    (last.firstContinues after = true → ∃ older e e' more c, s.texts before = older ++ [e] ∧
      s.texts (before ++ .clear :: after) = older ++ e' :: more ∧
      firstAdded? after = some c.toString ∧ e.text.toList ++ [c] <+: e'.text.toList ∧
      e'.clear = e.clear) := by
  intro s last
  have hall : s.texts (before ++ .clear :: after) = s.taken before ++ last.clearScreen.texts after :=
    texts_append s before (.clear :: after)
  have hnew : s.texts (.clear :: after) = s.clearScreen.texts after := rfl
  have hlast : last.clearScreen = s.clearScreen.withOlder last.latest := by
    have hg : last.maxGap = maxGap := maxGap_after s before
    rw [clearScreen, hg]
    rfl
  have continued (h : last.firstContinues after = true) : ∃ older e e' more c,
      s.texts before = older ++ [e] ∧ s.texts (before ++ .clear :: after) = older ++ e' :: more ∧
      firstAdded? after = some c.toString ∧ e.text.toList ++ [c] <+: e'.text.toList ∧
      e'.clear = e.clear := by
    cases hl : last.latest with
    | nil =>
      rw [firstContinues_of_nil hl] at h
      cases h
    | cons e older =>
      obtain ⟨e', more, c, ht, ha, hm, hp⟩ := texts_of_firstContinues (s := last.clearScreen) hl
        (firstContinues_clearScreen.trans h)
      refine ⟨s.taken before ++ older.reverse, e, e', more, c, ?_, ?_, ha, hp, hm⟩
      · rw [texts, events, hl, List.reverse_cons, List.append_assoc]
      · rw [hall, ht, List.append_assoc]
  refine ⟨⟨fun h => ?_, fun h => ?_⟩, fun t => texts_of_cleared rfl rfl, continued⟩
  · refine Bool.eq_false_iff.2 fun hf => ?_
    obtain ⟨older, e, e', more, c, hb, he, -, hp, -⟩ := continued hf
    rw [he, hb, List.append_assoc] at h
    obtain ⟨rfl, -⟩ := List.cons.inj (List.append_cancel_left h)
    have := hp.length_le
    rw [List.length_append, List.length_singleton] at this
    omega
  · have hn : (s.clearScreen.withOlder last.latest).firstContinues after = false := by
      rw [← hlast, firstContinues_clearScreen, h]
    rw [hall, hnew, hlast, texts_withOlder (.inr hn), ← List.append_assoc]
    rfl

/-- A character that goes on the text from before the clearing is not parted from it; one that is far
from it is. -/
theorem texts_after_clear_by_distance :
    let s := empty Model.nanoX.maxGap
    let before : List Op := [.char ⟨'a', 10, 20, 6, 8⟩]
    let near : List Op := [.char ⟨'b', 16, 20, 6, 8⟩]
    let far : List Op := [.char ⟨'b', 100, 20, 6, 8⟩]
    ((s.after before).firstContinues far = false ∧
      s.texts (before ++ .clear :: far) = s.texts before ++ s.texts (.clear :: far)) ∧
    (firstAdded? far = some "b" ∧ ∃ e more, s.texts (.clear :: far) = e :: more ∧ e.clear = true ∧
      "b".toList <+: e.text.toList) ∧
    (s.after before).firstContinues near = true ∧ ∃ older e e' more c, s.texts before = older ++ [e] ∧
      s.texts (before ++ .clear :: near) = older ++ e' :: more ∧ firstAdded? near = some c.toString ∧
      e.text.toList ++ [c] <+: e'.text.toList ∧ e'.clear = e.clear := by
  intro s before near far
  have hfar : (s.after before).firstContinues far = false := by decide
  have hadded : firstAdded? far = some "b" := by decide
  have hnear : (s.after before).firstContinues near = true := by decide
  have parted := texts_after_clear Model.nanoX.maxGap before far
  have joined := texts_after_clear Model.nanoX.maxGap before near
  exact ⟨⟨hfar, parted.1.2 hfar⟩, ⟨hadded, parted.2.1 "b" hadded⟩, hnear, joined.2.2 hnear⟩

/-- The text from before a clearing and the character after it are one text, which is not marked. -/
theorem text_across_clear :
    let s := empty Model.nanoX.maxGap
    let a : Op := .char ⟨'a', 10, 20, 6, 8⟩
    let b : Op := .char ⟨'b', 16, 20, 6, 8⟩
    s.texts [a, .clear, b, .take] = [⟨"ab", 10, 20, 12, 8, false⟩] ∧
      s.texts [a, .clear, b, .take] ≠ s.texts [a] ++ s.texts [.clear, b, .take] := by decide

end Seph.ScreenText
