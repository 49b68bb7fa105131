import Seph.Proofs.Engine.Run

/-!
# What a device prints

The firmware prints in chunks, and the console takes lines out of them. What is taken out of a stream of
chunks and what is left is `Console.feed`; an engine does the same whatever else it is told meanwhile
(`Engine.console_after`).

1. `Console.bytes_feed`, `Console.Tidy.feed`, `Console.proper_of_mem_feed`: nothing is lost, what is left is
   the start of a line and not too long, and what is taken out are lines, or else too long for one.
2. `Console.feed_eq_lines`: if no line is too long, what is taken out of chunks are the lines of the whole.
3. `Engine.printed_lines_are_logged`: both for the log of an engine.
-/

namespace Seph

/-- A line has no newline within it. Bytes without a newline are taken out only when they are too many. -/
def ConsolePiece.Proper : ConsolePiece → Prop
  | line bs => 0x0A ∉ bs
  | part bs => 0x0A ∉ bs ∧ Console.limit ≤ bs.length

namespace Console

/-- What is left in a buffer is the start of a line, and not too long. -/
structure Tidy (buffer : Bytes) : Prop where
  no_newline : 0x0A ∉ buffer
  short : buffer.length < limit

/-! ## Lines -/

section Lines

variable {before : Bytes}

theorem lines_newline (before bs : Bytes) :
    lines before (0x0A :: bs) = (.line before.reverse :: (lines [] bs).1, (lines [] bs).2) := by
  rw [lines, if_pos rfl]

theorem lines_of_ne {b : UInt8} (h : b ≠ 0x0A) (before bs : Bytes) :
    lines before (b :: bs) = lines (b :: before) bs := by
  rw [lines, if_neg h]

theorem lines_append (before as bs : Bytes) :
    lines before (as ++ bs) =
      ((lines before as).1 ++ (lines (lines before as).2.reverse bs).1,
        (lines (lines before as).2.reverse bs).2) := by
  induction as generalizing before with
  | nil => simp [lines]
  | cons a as ih =>
    by_cases h : a = 0x0A
    · subst h
      rw [List.cons_append, lines_newline, lines_newline, ih]
      rfl
    · rw [List.cons_append, lines_of_ne h, lines_of_ne h, ih]

theorem lines_of_no_newline {bs : Bytes} (h : 0x0A ∉ bs) (before : Bytes) :
    lines before bs = ([], before.reverse ++ bs) := by
  induction bs generalizing before with
  | nil => rw [lines, List.append_nil]
  | cons b bs ih =>
    obtain ⟨hb, hbs⟩ := not_or.1 (mt List.mem_cons.2 h)
    rw [lines_of_ne (Ne.symm hb), ih hbs, List.reverse_cons, List.append_assoc]
    rfl

/-- The lines taken out and what is left are the stretches between newlines. -/
theorem exists_lines (before bs : Bytes) :
    ∃ ls, (lines before bs).1 = ls.map .line ∧
      bs.splitOnPPrepend (· == 0x0A) before = ls ++ [(lines before bs).2] := by
  induction bs generalizing before with
  | nil => exact ⟨[], rfl, rfl⟩
  | cons b bs ih =>
    rw [List.splitOnPPrepend_cons_eq_if]
    by_cases h : b = 0x0A
    · subst h
      obtain ⟨ls, hl, hs⟩ := ih []
      refine ⟨before.reverse :: ls, by rw [lines_newline, hl, List.map_cons], ?_⟩
      rw [if_pos (beq_self_eq_true _), List.splitOnP_eq_splitOnPPrepend, hs, lines_newline,
        List.cons_append]
    · obtain ⟨ls, hl, hs⟩ := ih (b :: before)
      refine ⟨ls, by rw [lines_of_ne h, hl], ?_⟩
      rw [if_neg (by simpa using h), hs, lines_of_ne h]

theorem no_newline_lines (hb : 0x0A ∉ before) (bs : Bytes) :
    (∀ p ∈ (lines before bs).1, p.Proper) ∧ 0x0A ∉ (lines before bs).2 := by
  induction bs generalizing before with
  | nil => exact ⟨nofun, by rwa [lines, List.mem_reverse]⟩
  | cons b bs ih =>
    by_cases h : b = 0x0A
    · subst h
      rw [lines_newline]
      obtain ⟨hp, hl⟩ := ih List.not_mem_nil
      refine ⟨fun p hm => ?_, hl⟩
      rcases List.mem_cons.1 hm with rfl | hm
      · exact fun hn => hb (List.mem_reverse.1 hn)
      · exact hp p hm
    · rw [lines_of_ne h]
      exact ih (mt List.mem_cons.1 (not_or.2 ⟨Ne.symm h, hb⟩))

/-- No line of bytes is too long; `before`, in reverse, are the bytes in front of them. -/
def Short (before bs : Bytes) : Prop :=
  ∀ l ∈ bs.splitOnPPrepend (· == 0x0A) before, l.length < limit

theorem short_newline_iff {bs : Bytes} :
    Short before (0x0A :: bs) ↔ before.length < limit ∧ Short [] bs := by
  unfold Short
  rw [List.splitOnPPrepend_cons_eq_if, if_pos (beq_self_eq_true _), List.splitOnP_eq_splitOnPPrepend,
    List.forall_mem_cons, List.length_reverse]

theorem short_cons_iff {b : UInt8} (h : b ≠ 0x0A) {bs : Bytes} :
    Short before (b :: bs) ↔ Short (b :: before) bs := by
  unfold Short
  rw [List.splitOnPPrepend_cons_eq_if, if_neg (by simpa using h)]

theorem Short.length_lt {bs : Bytes} (h : Short before bs) : before.length < limit := by
  induction bs generalizing before with
  | nil => simpa [Short] using h
  | cons b bs ih =>
    by_cases hb : b = 0x0A
    · subst hb
      exact (short_newline_iff.1 h).1
    · exact Nat.lt_of_succ_lt (ih ((short_cons_iff hb).1 h))

theorem Short.rest {as bs : Bytes} (h : Short before (as ++ bs)) :
    Short (lines before as).2.reverse bs := by
  induction as generalizing before with
  | nil => rwa [lines, List.reverse_reverse]
  | cons a as ih =>
    by_cases ha : a = 0x0A
    · subst ha
      rw [lines_newline]
      exact ih (short_newline_iff.1 h).2
    · rw [lines_of_ne ha]
      exact ih ((short_cons_iff ha).1 h)

end Lines

/-! ## Chunks -/

/-- What is taken out of a buffer to which chunks are added one after the other, and what is left. -/
def feed (buffer : Bytes) : List Bytes → List ConsolePiece × Bytes
  | [] => ([], buffer)
  | c :: cs =>
    let (ps, buffer) := push buffer c
    let (qs, buffer) := feed buffer cs
    (ps ++ qs, buffer)

section Push

variable (buffer c : Bytes)

theorem push_of_short (h : (lines [] (buffer ++ c)).2.length < limit) :
    push buffer c = lines [] (buffer ++ c) := by
  unfold push
  exact if_neg (Nat.not_le_of_lt h)

theorem push_of_long (h : limit ≤ (lines [] (buffer ++ c)).2.length) :
    push buffer c = ((lines [] (buffer ++ c)).1 ++ [.part (lines [] (buffer ++ c)).2], []) := by
  unfold push
  exact if_pos h

theorem bytes_push : (push buffer c).1.flatMap ConsolePiece.bytes ++ (push buffer c).2 = buffer ++ c := by
  have hl := bytes_lines [] (buffer ++ c)
  rcases Nat.lt_or_ge (lines [] (buffer ++ c)).2.length limit with h | h
  · rw [push_of_short buffer c h, hl]
    rfl
  · rw [push_of_long buffer c h, List.flatMap_append, List.append_nil]
    exact (congrArg (_ ++ ·) (List.append_nil _)).trans hl

theorem tidy_push : Tidy (push buffer c).2 := by
  rcases Nat.lt_or_ge (lines [] (buffer ++ c)).2.length limit with h | h
  · rw [push_of_short buffer c h]
    exact ⟨(no_newline_lines List.not_mem_nil _).2, h⟩
  · rw [push_of_long buffer c h]
    exact ⟨List.not_mem_nil, show 0 < limit by decide⟩

theorem proper_of_mem_push {p : ConsolePiece} (hp : p ∈ (push buffer c).1) : p.Proper := by
  obtain ⟨hlines, hrest⟩ := no_newline_lines List.not_mem_nil (buffer ++ c)
  rcases Nat.lt_or_ge (lines [] (buffer ++ c)).2.length limit with h | h
  · rw [push_of_short buffer c h] at hp
    exact hlines p hp
  · rw [push_of_long buffer c h] at hp
    rcases List.mem_append.1 hp with hp | hp
    · exact hlines p hp
    · rw [List.mem_singleton.1 hp]
      exact ⟨hrest, h⟩

end Push

section Feed

variable {buffer : Bytes}

theorem feed_cons (buffer c : Bytes) (cs : List Bytes) :
    feed buffer (c :: cs) =
      ((push buffer c).1 ++ (feed (push buffer c).2 cs).1, (feed (push buffer c).2 cs).2) := rfl

theorem feed_append (buffer : Bytes) (cs ds : List Bytes) :
    feed buffer (cs ++ ds) =
      ((feed buffer cs).1 ++ (feed (feed buffer cs).2 ds).1, (feed (feed buffer cs).2 ds).2) := by
  induction cs generalizing buffer with
  | nil => rfl
  | cons c cs ih => rw [List.cons_append, feed_cons, feed_cons, ih, List.append_assoc]

theorem bytes_feed (buffer : Bytes) (cs : List Bytes) :
    (feed buffer cs).1.flatMap ConsolePiece.bytes ++ (feed buffer cs).2 = buffer ++ cs.flatten := by
  induction cs generalizing buffer with
  | nil => rw [List.flatten_nil, List.append_nil]; rfl
  | cons c cs ih =>
    rw [feed_cons, List.flatMap_append, List.append_assoc, ih, ← List.append_assoc, bytes_push,
      List.flatten_cons, List.append_assoc]

theorem Tidy.feed (h : Tidy buffer) (cs : List Bytes) : Tidy (feed buffer cs).2 := by
  induction cs generalizing buffer with
  | nil => exact h
  | cons c cs ih => exact ih (tidy_push buffer c)

theorem proper_of_mem_feed {cs : List Bytes} {p : ConsolePiece} (hp : p ∈ (Console.feed buffer cs).1) :
    p.Proper := by
  induction cs generalizing buffer with
  | nil => cases hp
  | cons c cs ih =>
    rcases List.mem_append.1 hp with hp | hp
    · exact proper_of_mem_push buffer c hp
    · exact ih hp

/-- **If no line is too long, what is taken out of chunks is what is taken out of the whole.** -/
theorem feed_eq_lines {before : Bytes} (hb : 0x0A ∉ before) {cs : List Bytes}
    (h : Short before cs.flatten) : Console.feed before.reverse cs = lines before cs.flatten := by
  induction cs generalizing before with
  | nil => rfl
  | cons c cs ih =>
    rw [List.flatten_cons] at h ⊢
    -- Bytes in front that are put before the chunk are without a newline, so nothing comes of them.
    have hlines : lines [] (before.reverse ++ c) = lines before c := by
      rw [lines_append, lines_of_no_newline (mt List.mem_reverse.1 hb)]
      exact congrArg (lines · c) (List.reverse_reverse before)
    have hrest : (lines before c).2.length < limit := by
      have := h.rest.length_lt
      rwa [List.length_reverse] at this
    have hpush : push before.reverse c = lines before c := by
      rw [push_of_short _ _ (hlines ▸ hrest), hlines]
    have htail := ih (mt List.mem_reverse.1 (no_newline_lines hb c).2) h.rest
    rw [List.reverse_reverse] at htail
    rw [feed_cons, hpush, htail, lines_append]

end Feed

end Console

namespace Engine

/-! ## Steps and runs -/

/-- The bytes that an operation prints. -/
def Op.printed? : Op → Option Bytes
  | .update p => if p.tag.prints then some p.payload else none
  | .setRules _ | .sendApdu _ => none

/-- A step does to the console what chunks do to it, and logs what is taken out. -/
structure Prints (e : Engine) (cs : List Bytes) (s : Step) : Prop where
  console : s.engine.console = (Console.feed e.console cs).2
  log : s.log = (Console.feed e.console cs).1.map ConsolePiece.text

theorem Silent.prints {e : Engine} {s : Step} (h : Silent e s) : Prints e [] s := ⟨h.console, h.log⟩

theorem prints_print (e : Engine) (bs : Bytes) (outputs : List Output) :
    Prints e [bs] (e.print bs outputs) :=
  ⟨rfl, congrArg (List.map _) (List.append_nil _).symm⟩

/-- **Nothing but what prints does anything to the console.** -/
theorem prints_step (e : Engine) (o : Op) : Prints e o.printed?.toList (e.step o) := by
  cases o with
  | setRules rules => exact ⟨rfl, rfl⟩
  | sendApdu apdu => exact (silent_sendApdu e apdu).prints
  | update p =>
    show Prints e (if p.tag.prints then some p.payload else none).toList (e.update p)
    cases h : p.tag.prints with
    | false => exact (silent_update e h).prints
    | true =>
      obtain ⟨outputs, hu⟩ := exists_print e h
      rw [hu]
      exact prints_print e p.payload outputs

/-- The chunks that operations print, in order. -/
def printed (os : List Op) : List Bytes := os.flatMap fun o => o.printed?.toList

theorem printed_cons (o : Op) (os : List Op) : printed (o :: os) = o.printed?.toList ++ printed os :=
  List.flatMap_cons

def logged (e : Engine) (os : List Op) : List String :=
  (e.history os).flatMap fun (e, o) => (e.step o).log

theorem logged_cons (e : Engine) (o : Op) (os : List Op) :
    e.logged (o :: os) = (e.step o).log ++ (e.step o).engine.logged os := by
  rw [logged, history_cons, List.flatMap_cons, logged]

/-- **A run does to the console what the chunks that it prints do.** -/
theorem console_after (e : Engine) (os : List Op) :
    (e.after os).console = (Console.feed e.console (printed os)).2 ∧
      e.logged os = (Console.feed e.console (printed os)).1.map ConsolePiece.text := by
  induction os generalizing e with
  | nil => exact ⟨rfl, rfl⟩
  | cons o os ih =>
    obtain ⟨hconsole, hlog⟩ := ih (e.step o).engine
    have h := prints_step e o
    rw [h.console] at hconsole hlog
    rw [after_cons, logged_cons, printed_cons, Console.feed_append, List.map_append, hconsole, hlog, h.log]
    exact ⟨rfl, rfl⟩

/-- **What is printed is logged line by line.** In a run of a new device, whatever else it is told: what
is taken out, as bytes, and what is left are the bytes that were printed. What is left is without a
newline and shorter than the limit. What is taken out is logged, and it is a line, or it is without a
newline and not shorter than the limit. If no line that is printed, nor what stands behind the last
newline, is as long as the limit, then what is logged are the lines of all that is printed, in whatever
chunks it comes: every run of any new device that prints the same bytes logs the same and has the same
left. -/
theorem printed_lines_are_logged (m : Model) (k : LinkKind) (g : Option Graphics) (os : List Op) :
    let e := new m k g
    let stream := (printed os).flatten
    let (pieces, rest) := Console.feed [] (printed os)
    (e.after os).console = rest ∧ e.logged os = pieces.map ConsolePiece.text ∧
    pieces.flatMap ConsolePiece.bytes ++ rest = stream ∧
    0x0A ∉ rest ∧ rest.length < Console.limit ∧ (∀ p ∈ pieces, p.Proper) ∧
    ((∀ l ∈ stream.splitOn 0x0A, l.length < Console.limit) →
      (∃ ls, pieces = ls.map .line ∧ stream.splitOn 0x0A = ls ++ [rest]) ∧
      ∀ m' k' g' os', (printed os').flatten = stream →
        Console.feed [] (printed os') = (pieces, rest) ∧
        (new m' k' g').logged os' = e.logged os ∧
        ((new m' k' g').after os').console = (e.after os).console) := by
  obtain ⟨hconsole, hlog⟩ := console_after (new m k g) os
  have htidy : Console.Tidy (Console.feed [] (printed os)).2 :=
    Console.Tidy.feed ⟨List.not_mem_nil, show 0 < Console.limit by decide⟩ _
  refine ⟨hconsole, hlog, Console.bytes_feed [] _, htidy.no_newline, htidy.short,
    fun p hp => Console.proper_of_mem_feed hp, fun hshort => ?_⟩
  rw [List.splitOn_eq_splitOnP, List.splitOnP_eq_splitOnPPrepend] at hshort ⊢
  have hlines := Console.feed_eq_lines List.not_mem_nil hshort
  refine ⟨?_, fun m' k' g' os' hs => ?_⟩
  · have h := Console.exists_lines [] (printed os).flatten
    rwa [← hlines] at h
  · rw [← hs] at hshort hlines
    have hsame : Console.feed [] (printed os') = Console.feed [] (printed os) :=
      (Console.feed_eq_lines List.not_mem_nil hshort).trans hlines.symm
    obtain ⟨hconsole', hlog'⟩ := console_after (new m' k' g') os'
    refine ⟨hsame, ?_, ?_⟩
    · rw [hlog, hlog']
      exact congrArg (fun r => r.1.map ConsolePiece.text) hsame
    · rw [hconsole, hconsole']
      exact congrArg Prod.snd hsame

/-- A character that is cut in two, with other packets in between: the log is the same as without the
cut. -/
theorem cut_character_is_logged :
    let cut : List Op := [.update ⟨.printfStatus, [0x63, 0xC3]⟩, .update ⟨.playTune, [1]⟩, .setRules none,
      .update ⟨.printcStatus, [0xA9, 0x20, 0x0A, 0x78]⟩]
    let whole : List Op := [.update ⟨.printfStatus, [0x63, 0xC3, 0xA9, 0x20, 0x0A, 0x78]⟩]
    (new .blue .nfc none).logged whole = (new .nanoSP .hid none).logged cut ∧
      ((new .blue .nfc none).after whole).console = ((new .nanoSP .hid none).after cut).console ∧
      (new .nanoSP .hid none).logged cut = ["cé"] := by
  intro cut whole
  obtain ⟨-, hlog, -, -, -, -, h⟩ := printed_lines_are_logged .nanoSP .hid none cut
  obtain ⟨-, hsame⟩ := h (by decide)
  obtain ⟨-, hlogged, hconsole⟩ := hsame .blue .nfc none whole rfl
  exact ⟨hlogged, hconsole, hlog.trans (by decide +kernel)⟩

end Engine
end Seph
