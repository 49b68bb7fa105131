import Mathlib.Data.List.Forall2
import Mathlib.Data.List.Induction
import Seph.Proofs.Display.ScreenText
import Seph.Proofs.Lists

/-!
# What is read, and where

What is read from the screen comes in pieces: characters that were drawn or recognised, and labels. A
text is put together from pieces that follow each other, and its box is drawn around theirs. Each box is
given by its edges here, since what a text and a character have in common is told from the edges.

A text tells its box in 16 bits, whatever the box of a piece is. So a piece is told as it is, in exact
numbers, and the text that shows it may have another box (`TextEvent.Shows`).

1. `Box.Smallest.add`: the smallest rectangle around boxes and one more.
2. `TextEvent.box_extend`: a text grows to the smallest rectangle around it and a character, if 16 bits
   can tell that rectangle.
3. `TextEvent.Gathers.extend`: one more character is one more piece.
4. `ScreenText.Reading.groups`: no piece is lost or read twice, in whatever way the texts came to be.
-/

namespace Seph

/-! ## Boxes -/

/-- A rectangle, by its edges. -/
structure Box where
  left : Nat
  top : Nat
  right : Nat
  bottom : Nat
  deriving DecidableEq, Repr

namespace Box

/-- The rectangle with a given corner and size. -/
def sized (x y w h : UInt16) : Box := ⟨x.toNat, y.toNat, x.toNat + w.toNat, y.toNat + h.toNat⟩

/-- No edge of the first box lies outside of the second. -/
def Inside (a b : Box) : Prop :=
  (b.left ≤ a.left ∧ a.right ≤ b.right) ∧ b.top ≤ a.top ∧ a.bottom ≤ b.bottom

/-- Each box begins above the end of the other. -/
def Level (a b : Box) : Prop := a.top < b.bottom ∧ b.top < a.bottom

/-- The corner and the size can be told in 16 bits each. -/
def Tellable (b : Box) : Prop :=
  (b.left ≤ 65535 ∧ b.right ≤ b.left + 65535) ∧ b.top ≤ 65535 ∧ b.bottom ≤ b.top + 65535

/-- The smallest rectangle around boxes: it is around them, and lies inside of any that is. -/
structure Smallest (b : Box) (bs : List Box) : Prop where
  around : ∀ a ∈ bs, a.Inside b
  least : ∀ c, (∀ a ∈ bs, a.Inside c) → b.Inside c

def join (a b : Box) : Box :=
  ⟨min a.left b.left, min a.top b.top, max a.right b.right, max a.bottom b.bottom⟩

variable {a b c : Box} {bs : List Box}

theorem tellable_sized (x y w h : UInt16) : (sized x y w h).Tellable := by
  have := x.toNat_lt
  have := y.toNat_lt
  have := w.toNat_lt
  have := h.toNat_lt
  simp only [Tellable, sized]
  omega

theorem Inside.trans (hab : a.Inside b) (hbc : b.Inside c) : a.Inside c := by
  unfold Inside at *
  omega

theorem join_inside_iff : (a.join b).Inside c ↔ a.Inside c ∧ b.Inside c := by
  simp only [Inside, join]
  omega

theorem inside_join_left (a b : Box) : a.Inside (a.join b) := by
  simp only [Inside, join]
  omega

theorem inside_join_right (a b : Box) : b.Inside (a.join b) := by
  simp only [Inside, join]
  omega

/-- A box that begins in reach of 16 bits can be told if one around it can. -/
theorem Tellable.of_inside (hb : b.Tellable) (h : a.Inside b) (hx : a.left ≤ 65535) (hy : a.top ≤ 65535) :
    a.Tellable := by
  unfold Tellable Inside at *
  omega

theorem Smallest.single (b : Box) : b.Smallest [b] where
  around a ha := by
    rw [List.mem_singleton.1 ha]
    unfold Inside
    omega
  least c hc := hc b (List.mem_singleton.2 rfl)

/-- **One more box.** -/
theorem Smallest.add (h : b.Smallest bs) (a : Box) : (b.join a).Smallest (bs ++ [a]) where
  around d hd := by
    rcases List.mem_append.1 hd with hd | hd
    · exact (h.around d hd).trans (inside_join_left b a)
    · rw [List.mem_singleton.1 hd]
      exact inside_join_right b a
  least c hc := by
    rw [join_inside_iff]
    constructor
    · exact h.least c fun d hd => hc d (List.mem_append_left _ hd)
    · exact hc a (List.mem_append_right _ (List.mem_singleton.2 rfl))

theorem Smallest.exists_mem (h : b.Smallest bs) : ∃ a, a ∈ bs := by
  cases bs with
  | nil =>
    have hin : b.Inside ⟨b.left + 1, 0, b.right, b.bottom⟩ := h.least _ nofun
    exact absurd hin.1.1 (Nat.not_succ_le_self b.left)
  | cons a bs => exact ⟨a, List.mem_cons_self⟩

end Box

/-! ## Pieces -/

/-- What is read at once, in its box. -/
structure Piece where
  text : String
  box : Box
  deriving DecidableEq, Repr

def TextEvent.box (e : TextEvent) : Box := .sized e.x e.y e.width e.height

def TextEvent.piece (e : TextEvent) : Piece := ⟨e.text, e.box⟩

def ScreenText.Placed.piece (p : ScreenText.Placed) : Piece :=
  ⟨p.char.toString, .sized p.x p.y p.width p.height⟩

namespace TextEvent

/-- The character lies next to the text: not left of it, not too far behind it, and level with it. -/
def Near (e : TextEvent) (maxGap : Nat) (p : ScreenText.Placed) : Prop :=
  let a := e.box
  let b := p.piece.box
  a.left ≤ b.left ∧ (b.left : Int) - a.right < maxGap ∧ a.Level b

/-- The text says what the piece says, with the corner and the size of its box modulo `2 ^ 16`. -/
structure Shows (e : TextEvent) (q : Piece) : Prop where
  text : e.text = q.text
  left : e.x = UInt16.ofNat q.box.left
  top : e.y = UInt16.ofNat q.box.top
  wide : ∃ w, q.box.right = q.box.left + w ∧ e.width = UInt16.ofNat w
  high : ∃ h, q.box.bottom = q.box.top + h ∧ e.height = UInt16.ofNat h

/-- The text was put together from pieces. Its box is the smallest around theirs if 16 bits can tell it
and them; and a piece that they cannot tell ends too far behind the corner of the text. -/
structure Gathers (e : TextEvent) (ps : List Piece) : Prop where
  text : e.text.toList = ps.flatMap fun p => p.text.toList
  box : ∃ b : Box, b.Smallest (ps.map Piece.box) ∧
    (b.Tellable → (∀ p ∈ ps, p.box.Tellable) → e.box = b)
  far : ∀ p ∈ ps, (p.box.left ≤ 65535 ∨ e.box.left + 65535 < p.box.right) ∧
    (p.box.top ≤ 65535 ∨ e.box.top + 65535 < p.box.bottom)

/-- The text says what pieces say, and its box is the smallest around theirs exactly if 16 bits can tell
that box and those of the pieces. -/
structure Collects (e : TextEvent) (ps : List Piece) : Prop where
  text : e.text.toList = ps.flatMap fun p => p.text.toList
  box : ∃ b : Box, b.Smallest (ps.map Piece.box) ∧
    (e.box = b ↔ b.Tellable ∧ ∀ p ∈ ps, p.box.Tellable)

variable {e : TextEvent} {p : ScreenText.Placed} {q : Piece} {ps : List Piece} {maxGap : Nat}

theorem continuedBy_iff : e.continuedBy maxGap p.x p.y p.height = true ↔ e.Near maxGap p := by
  unfold continuedBy
  rw [Bool.and_eq_true, Bool.and_eq_true, Bool.and_eq_true, decide_eq_true_iff, decide_eq_true_iff,
    decide_eq_true_iff, decide_eq_true_iff, UInt16.le_iff_toNat_le]
  simp only [right, bottom, Near, Box.Level, ScreenText.Placed.piece, box, Box.sized]
  omega

theorem toNat_min (a b : UInt16) : (min a b).toNat = min a.toNat b.toNat := by
  show (if a ≤ b then a else b).toNat = _
  by_cases h : a ≤ b
  · rw [if_pos h, Nat.min_eq_left (UInt16.le_iff_toNat_le.1 h)]
  · rw [if_neg h, Nat.min_eq_right (Nat.le_of_not_le fun hn => h (UInt16.le_iff_toNat_le.2 hn))]

theorem toNat_ofNat_of_le {n : Nat} (hn : n ≤ 65535) : (UInt16.ofNat n).toNat = n :=
  UInt16.toNat_ofNat_of_lt' (Nat.lt_succ_of_le hn)

/-- **A text grows to the smallest rectangle around it and a character that is not left of it**, if the
size of that rectangle can be told in 16 bits. -/
theorem box_extend (hx : e.box.left ≤ p.piece.box.left) (h : (e.box.join p.piece.box).Tellable) :
    (e.extend p.char p.x p.y p.width p.height).box = e.box.join p.piece.box := by
  have hx : e.x.toNat ≤ p.x.toNat := hx
  simp only [box, extend, ScreenText.Placed.piece, Box.sized, Box.join, right, bottom, toNat_min,
    Box.mk.injEq, Box.Tellable] at h ⊢
  rw [toNat_ofNat_of_le (by omega), toNat_ofNat_of_le (by omega)]
  exact ⟨by omega, trivial, by omega, by omega⟩

theorem left_extend (e : TextEvent) (c : Char) (x y w h : UInt16) :
    (e.extend c x y w h).box.left = e.box.left := rfl

theorem top_extend_le (e : TextEvent) (c : Char) (x y w h : UInt16) :
    (e.extend c x y w h).box.top ≤ e.box.top := by
  show (min e.y y).toNat ≤ e.y.toNat
  rw [toNat_min]
  exact Nat.min_le_left _ _

theorem shows_piece (e : TextEvent) : e.Shows e.piece where
  text := rfl
  left := UInt16.ofNat_toNat.symm
  top := UInt16.ofNat_toNat.symm
  wide := ⟨e.width.toNat, rfl, UInt16.ofNat_toNat.symm⟩
  high := ⟨e.height.toNat, rfl, UInt16.ofNat_toNat.symm⟩

theorem Shows.gathers (h : e.Shows q) : e.Gathers [q] := by
  obtain ⟨w, hr, hw⟩ := h.wide
  obtain ⟨k, hb, hk⟩ := h.high
  have left : e.x.toNat = q.box.left % 65536 := by rw [h.left]; exact UInt16.toNat_ofNat'
  have top : e.y.toNat = q.box.top % 65536 := by rw [h.top]; exact UInt16.toNat_ofNat'
  constructor
  · rw [h.text, List.flatMap_singleton]
  · refine ⟨q.box, .single q.box, fun ht _ => ?_⟩
    obtain ⟨⟨hx, hright⟩, hy, hbottom⟩ := ht
    have width : e.width.toNat = w := by rw [hw, toNat_ofNat_of_le (by omega)]
    have height : e.height.toNat = k := by rw [hk, toNat_ofNat_of_le (by omega)]
    simp only [box, Box.sized, left, top, width, height, Nat.mod_eq_of_lt (Nat.lt_succ_of_le hx),
      Nat.mod_eq_of_lt (Nat.lt_succ_of_le hy), ← hr, ← hb]
  · intro p hp
    rw [List.mem_singleton.1 hp]
    show (_ ∨ e.x.toNat + 65535 < _) ∧ (_ ∨ e.y.toNat + 65535 < _)
    omega

namespace Gathers

/-- **One more character is one more piece.** -/
theorem extend (h : e.Gathers ps) (hx : e.box.left ≤ p.piece.box.left) :
    (e.extend p.char p.x p.y p.width p.height).Gathers (ps ++ [p.piece]) := by
  obtain ⟨b, hb, he⟩ := h.box
  have tellable : p.piece.box.Tellable := Box.tellable_sized _ _ _ _
  constructor
  · rw [ScreenText.toList_text_extend, h.text, List.flatMap_append, List.flatMap_singleton]
    exact congrArg _ (String.toList_singleton p.char).symm
  · refine ⟨b.join p.piece.box, ?_, fun ht hps => ?_⟩
    · rw [List.map_append]
      exact hb.add p.piece.box
    · have hps' : ∀ q ∈ ps, q.box.Tellable := fun q hq => hps q (List.mem_append_left _ hq)
      -- the box so far begins where one of the pieces does or before it
      obtain ⟨a, ha⟩ := hb.exists_mem
      obtain ⟨q, hq, rfl⟩ := List.mem_map.1 ha
      have hin := hb.around q.box ha
      have hqt := hps' q hq
      have hbt : b.Tellable := ht.of_inside (Box.inside_join_left b p.piece.box)
        (Nat.le_trans hin.1.1 hqt.1.1) (Nat.le_trans hin.2.1 hqt.2.1)
      rw [← he hbt hps'] at ht ⊢
      exact box_extend hx ht
  · intro q hq
    have hl := e.left_extend p.char p.x p.y p.width p.height
    have ht := e.top_extend_le p.char p.x p.y p.width p.height
    rcases List.mem_append.1 hq with hq | hq
    · have := h.far q hq
      omega
    · rw [List.mem_singleton.1 hq]
      exact ⟨.inl tellable.1.1, .inl tellable.2.1⟩

/-- The box is exact if it can be, and only then. -/
theorem collects (h : e.Gathers ps) : e.Collects ps where
  text := h.text
  box := by
    obtain ⟨b, hb, he⟩ := h.box
    refine ⟨b, hb, fun hbe => ?_, fun ⟨ht, hps⟩ => he ht hps⟩
    have ht : e.box.Tellable := Box.tellable_sized _ _ _ _
    subst hbe
    refine ⟨ht, fun q hq => ?_⟩
    have hin : q.box.Inside e.box := hb.around q.box (List.mem_map_of_mem hq)
    have hfar := h.far q hq
    unfold Box.Tellable Box.Inside at *
    omega

end Gathers

end TextEvent

/-! ## Readings -/

namespace ScreenText

open TextEvent (Gathers Shows)

/-- What was read when no text waited at first: the pieces in order, the texts that were taken out, and
the text on the screen afterwards. -/
inductive Reading (maxGap : Nat) : List Piece → List TextEvent → ScreenText → Prop
  | start : Reading maxGap [] [] (empty maxGap)
  | char {ps taken s} (p : Placed) : Reading maxGap ps taken s →
    Reading maxGap (ps ++ [p.piece]) taken (s.place p)
  | label {ps taken s} {e : TextEvent} {q : Piece} (h : e.Shows q) : Reading maxGap ps taken s →
    Reading maxGap (ps ++ [q]) taken (s.addEvent e)
  | clear {ps taken s} : Reading maxGap ps taken s → Reading maxGap ps taken s.clearScreen
  | take {ps taken s} : Reading maxGap ps taken s → Reading maxGap ps (taken ++ s.events) s.take.2

section Readings

variable {maxGap : Nat} {ps : List Piece} {taken : List TextEvent} {s : ScreenText}
  {gs : List (List Piece)}

theorem continues_iff {p : Placed} {e : TextEvent} {older : List TextEvent} (hl : s.latest = e :: older) :
    s.continues p = true ↔ e.Near s.maxGap p := by
  rw [continues, hl]
  exact TextEvent.continuedBy_iff

theorem flatten_reverse_cons (g : List Piece) (gs : List (List Piece)) :
    (g :: gs).reverse.flatten = gs.reverse.flatten ++ g := by
  rw [List.reverse_cons, List.flatten_append, List.flatten_singleton]

theorem gathered_addEvent (hg : List.Forall₂ Gathers s.latest gs) {e : TextEvent} {q : Piece}
    (h : e.Shows q) : List.Forall₂ Gathers (s.addEvent e).latest ([q] :: gs) :=
  .cons ⟨h.gathers.text, h.gathers.box, h.gathers.far⟩ hg

/-- An added character is one more piece, in the latest group or behind it. -/
theorem gathered_place (hg : List.Forall₂ Gathers s.latest gs) (p : Placed) :
    ∃ gs', List.Forall₂ Gathers (s.place p).latest gs' ∧
      gs'.reverse.flatten = gs.reverse.flatten ++ [p.piece] := by
  by_cases hc : s.continues p = true
  · cases hl : s.latest with
    | nil =>
      rw [continues, hl] at hc
      cases hc
    | cons e older =>
      rw [hl] at hg
      cases hg with
      | @cons _ g _ gs he hold =>
        rw [place_of_continues hl hc]
        refine ⟨(g ++ [p.piece]) :: gs, .cons (he.extend ((continues_iff hl).1 hc).1) hold, ?_⟩
        rw [flatten_reverse_cons, flatten_reverse_cons, List.append_assoc]
  · rw [place_of_not_continues (Bool.eq_false_iff.2 hc)]
    exact ⟨_, gathered_addEvent hg (TextEvent.shows_piece _), flatten_reverse_cons [p.piece] gs⟩

namespace Reading

theorem append_nil (h : Reading maxGap ps taken s) : Reading maxGap (ps ++ []) taken s := by
  rwa [List.append_nil]

theorem taken_append_nil (h : Reading maxGap ps taken s) : Reading maxGap ps (taken ++ []) s := by
  rwa [List.append_nil]

/-- The texts that were taken out come of the first pieces, and those that wait of the others. -/
theorem gathered (h : Reading maxGap ps taken s) :
    ∃ done gs, List.Forall₂ Gathers taken done ∧ List.Forall₂ Gathers s.latest gs ∧
      done.flatten ++ gs.reverse.flatten = ps := by
  induction h with
  | start => exact ⟨[], [], .nil, .nil, rfl⟩
  | char p _ ih =>
    obtain ⟨done, gs, hd, hg, rfl⟩ := ih
    obtain ⟨gs', hg', hflat⟩ := gathered_place hg p
    exact ⟨done, gs', hd, hg', by rw [hflat, List.append_assoc]⟩
  | label h _ ih =>
    obtain ⟨done, gs, hd, hg, rfl⟩ := ih
    exact ⟨done, _, hd, gathered_addEvent hg h, by rw [flatten_reverse_cons, List.append_assoc]⟩
  | clear _ ih => exact ih
  | take _ ih =>
    obtain ⟨done, gs, hd, hg, rfl⟩ := ih
    refine ⟨done ++ gs.reverse, [], List.rel_append hd (List.forall₂_reverse_iff.2 hg), .nil, ?_⟩
    rw [List.flatten_append]
    exact List.append_nil _

/-- **No piece is lost or read twice.** The texts, first those that were taken out and then those that
wait, are put together from the pieces in order. -/
theorem groups (h : Reading maxGap ps taken s) :
    ∃ groups, groups.flatten = ps ∧ List.Forall₂ Gathers (taken ++ s.events) groups := by
  obtain ⟨done, gs, hd, hg, rfl⟩ := h.gathered
  exact ⟨done ++ gs.reverse, List.flatten_append, List.rel_append hd (List.forall₂_reverse_iff.2 hg)⟩

end Reading

end Readings

end ScreenText
end Seph
