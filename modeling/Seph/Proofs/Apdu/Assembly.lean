import Mathlib.Data.List.Induction
import Seph.Apdu.Assembly
import Seph.Proofs.Apdu.Chunk

/-!
# Assembly out of any frames

Frames come one after the other, whatever they hold. What a frame can do is said once, in `Rule`.

1. `Message`: frames of which those that are chunks carry the numbers 0, 1, 2, … of one APDU.
2. `Stage.push`: at any time the assembly is empty, or it holds the bodies of the message that the
   latest chunk 0 began, and fewer bytes than this chunk announced.
3. `assembled_from_message`: an APDU that is given is made of the bodies of one message.
-/

namespace Seph.Assembly

open ChunkHeader (decode TooShort apduCommand)

/-- What frames give that are pushed one after the other. -/
def results (a : Assembly) : List Bytes → List (Except LinkError (Option Bytes))
  | [] => []
  | f :: fs => (a.push f).1 :: results (a.push f).2 fs

def after (a : Assembly) : List Bytes → Assembly
  | [] => a
  | f :: fs => after (a.push f).2 fs

@[simp] theorem results_nil (a : Assembly) : a.results [] = [] := rfl

@[simp] theorem after_nil (a : Assembly) : a.after [] = a := rfl

@[simp] theorem results_cons (a : Assembly) (f : Bytes) (fs : List Bytes) :
    a.results (f :: fs) = (a.push f).1 :: (a.push f).2.results fs := rfl

@[simp] theorem after_cons (a : Assembly) (f : Bytes) (fs : List Bytes) :
    a.after (f :: fs) = (a.push f).2.after fs := rfl

theorem results_append (a : Assembly) (fs gs : List Bytes) :
    a.results (fs ++ gs) = a.results fs ++ (a.after fs).results gs := by
  induction fs generalizing a with
  | nil => rfl
  | cons f fs ih => rw [List.cons_append, results_cons, ih, results_cons, List.cons_append, after_cons]

theorem after_append (a : Assembly) (fs gs : List Bytes) :
    a.after (fs ++ gs) = (a.after fs).after gs := by
  induction fs generalizing a with
  | nil => rfl
  | cons f fs ih => exact ih _

/-! ## What a frame can do -/

/-- The assembly once the header of its next chunk was read: a length begins a new APDU. -/
def opened (a : Assembly) : Option UInt16 → Assembly
  | some n => { a with length := n.toNat, body := #[] }
  | none => a

/-- The bytes that have come once a body has, less what is beyond the announced length. -/
def taken (a : Assembly) (body : Bytes) : Bytes := (a.body.toList ++ body).take a.length

/-- The buffer holds no more than was announced. -/
def Sized (a : Assembly) : Prop := a.body.size ≤ a.length

theorem sized_opened_some (a : Assembly) (n : UInt16) : (a.opened (some n)).Sized := Nat.zero_le _

theorem Sized.opened {a : Assembly} (h : a.Sized) (length : Option UInt16) :
    (a.opened length).Sized := by
  cases length with
  | none => exact h
  | some n => exact sized_opened_some a n

theorem length_taken_le (a : Assembly) (body : Bytes) : (a.taken body).length ≤ a.length := by
  rw [taken, List.length_take]
  exact Nat.min_le_left _ _

/-- A body is taken as far as there is room for it, and completes the APDU if the room is used up. -/
theorem accept_eq {a : Assembly} {length : Option UInt16} (h : (a.opened length).Sized) (body : Bytes) :
    a.accept length body =
      if ((a.opened length).taken body).length < (a.opened length).length then
        (none, ⟨a.channel, a.seq + 1, (a.opened length).length, ((a.opened length).taken body).toArray⟩)
      else (some ((a.opened length).taken body), empty a.channel) := by
  have htaken : (a.opened length).taken body = (a.opened length).body.toList ++
      body.take ((a.opened length).length - (a.opened length).body.size) := by
    rw [taken, List.take_append, List.take_of_length_le h, Array.length_toList]
  have hbuffer (xs : Bytes) : ((a.opened length).body.toList ++ xs).toArray =
      (a.opened length).body ++ xs.toArray := Array.ext' (by simp)
  rw [htaken, hbuffer]
  cases length <;> simp [accept, opened]

/-- The header is that of the chunk that is expected. -/
structure Expects (a : Assembly) (h : ChunkHeader) : Prop where
  channel : h.channel = a.channel
  command : h.command = apduCommand
  seq : h.seq = a.seq

/-- The rules of an assembly: what a frame gives, and the assembly after that. -/
inductive Rule (a : Assembly) (f : Bytes) : Except LinkError (Option Bytes) → Assembly → Prop
  | short (tooShort : TooShort f) : Rule a f (.error (.wire .badLength)) a
  | foreign {h : ChunkHeader} {body : Bytes} (decoded : decode f = .ok (h, body))
      (other : h.channel ≠ a.channel ∨ h.command ≠ apduCommand) :
    Rule a f (.error (.channel h.channel h.command)) (empty a.channel)
  | disorder {h : ChunkHeader} {body : Bytes} (decoded : decode f = .ok (h, body))
      (channel : h.channel = a.channel) (command : h.command = apduCommand) (seq : h.seq ≠ a.seq) :
    Rule a f (.error (.sequence a.seq h.seq)) (empty a.channel)
  | part {h : ChunkHeader} {body : Bytes} (decoded : decode f = .ok (h, body)) (expected : a.Expects h)
      (short : ((a.opened h.length).taken body).length < (a.opened h.length).length) :
    Rule a f (.ok none)
      ⟨a.channel, a.seq + 1, (a.opened h.length).length, ((a.opened h.length).taken body).toArray⟩
  | whole {h : ChunkHeader} {body : Bytes} (decoded : decode f = .ok (h, body)) (expected : a.Expects h)
      (full : ((a.opened h.length).taken body).length = (a.opened h.length).length) :
    Rule a f (.ok (some ((a.opened h.length).taken body))) (empty a.channel)

section Push

variable {a : Assembly} {f body : Bytes} {h : ChunkHeader}

theorem push_of_tooShort (hs : TooShort f) : a.push f = (.error (.wire .badLength), a) := by
  rw [push, ChunkHeader.decode_eq_error_iff.2 ⟨rfl, hs⟩]

theorem push_of_foreign (hd : decode f = .ok (h, body))
    (ho : h.channel ≠ a.channel ∨ h.command ≠ apduCommand) :
    a.push f = (.error (.channel h.channel h.command), empty a.channel) := by
  rw [push, hd]
  exact if_pos ho

theorem push_of_disorder (hd : decode f = .ok (h, body)) (hc : h.channel = a.channel)
    (hm : h.command = apduCommand) (hs : h.seq ≠ a.seq) :
    a.push f = (.error (.sequence a.seq h.seq), empty a.channel) := by
  rw [push, hd]
  simp [hc, hm, hs]

theorem push_of_expects (hd : decode f = .ok (h, body)) (he : a.Expects h) :
    a.push f = (.ok (a.accept h.length body).1, (a.accept h.length body).2) := by
  rw [push, hd]
  simp [he.channel, he.command, he.seq]

theorem push_rule (ha : a.Sized) (f : Bytes) : Rule a f (a.push f).1 (a.push f).2 := by
  cases hd : decode f with
  | error e =>
    have hs := (ChunkHeader.decode_eq_error_iff.1 hd).2
    rw [push_of_tooShort hs]
    exact .short hs
  | ok x =>
    obtain ⟨h, body⟩ := x
    by_cases ho : h.channel ≠ a.channel ∨ h.command ≠ apduCommand
    · rw [push_of_foreign hd ho]
      exact .foreign hd ho
    · obtain ⟨hc, hm⟩ := not_or.1 ho
      have hc : h.channel = a.channel := Decidable.not_not.1 hc
      have hm : h.command = apduCommand := Decidable.not_not.1 hm
      by_cases hs : h.seq = a.seq
      · have he : a.Expects h := ⟨hc, hm, hs⟩
        rw [push_of_expects hd he, accept_eq (ha.opened h.length)]
        split
        · rename_i hl
          exact .part hd he hl
        · rename_i hl
          exact .whole hd he (Nat.le_antisymm (length_taken_le _ _) (Nat.not_lt.1 hl))
      · rw [push_of_disorder hd hc hm hs]
        exact .disorder hd hc hm hs

theorem Rule.ended {r : Except LinkError (Option Bytes)} {a' : Assembly} (hr : Rule a f r a') :
    r = .ok none ∨ r = .error (.wire .badLength) ∨ a' = empty a.channel := by
  cases hr with
  | short => exact .inr (.inl rfl)
  | part => exact .inl rfl
  | foreign | disorder | whole => exact .inr (.inr rfl)

end Push

/-! ## Messages -/

/-- The chunks among frames, with their bodies. -/
def chunksOf (fs : List Bytes) : List (ChunkHeader × Bytes) :=
  fs.filterMap fun f => match decode f with
    | .ok x => some x
    | .error _ => none

/-- The bodies of the chunks among frames, joined. -/
def content (fs : List Bytes) : Bytes := (chunksOf fs).flatMap Prod.snd

/-- Frames that begin with a chunk 0 that announces `length` bytes, and among which all chunks belong to
the channel and carry the numbers 0, 1, 2, …. So no further chunk 0 is among them. -/
structure Message (channel : UInt16) (length : Nat) (fs : List Bytes) : Prop where
  first : ∃ f rest n body, fs = f :: rest ∧
    decode f = .ok (⟨channel, apduCommand, 0, some n⟩, body) ∧ n.toNat = length
  numbered : ∀ (i : Nat) (h : ChunkHeader) (body : Bytes), (chunksOf fs)[i]? = some (h, body) →
    h.channel = channel ∧ h.command = apduCommand ∧ h.seq.toNat = i

section Message

variable {channel : UInt16} {length : Nat} {fs : List Bytes} {f body : Bytes} {h : ChunkHeader}

theorem chunksOf_append_chunk (hd : decode f = .ok (h, body)) (fs : List Bytes) :
    chunksOf (fs ++ [f]) = chunksOf fs ++ [(h, body)] := by
  simp [chunksOf, List.filterMap_append, hd]

theorem chunksOf_append_short (hs : TooShort f) (fs : List Bytes) :
    chunksOf (fs ++ [f]) = chunksOf fs := by
  simp [chunksOf, List.filterMap_append, ChunkHeader.decode_eq_error_iff.2 ⟨rfl, hs⟩]

theorem content_append_chunk (hd : decode f = .ok (h, body)) (fs : List Bytes) :
    content (fs ++ [f]) = content fs ++ body := by
  rw [content, chunksOf_append_chunk hd, List.flatMap_append, List.flatMap_singleton, content]

theorem content_append_short (hs : TooShort f) (fs : List Bytes) :
    content (fs ++ [f]) = content fs := by
  rw [content, chunksOf_append_short hs, content]

theorem Message.first_append (hm : Message channel length fs) (f : Bytes) :
    ∃ g rest n body, fs ++ [f] = g :: rest ∧
      decode g = .ok (⟨channel, apduCommand, 0, some n⟩, body) ∧ n.toNat = length := by
  obtain ⟨g, rest, n, body, rfl, hd, hn⟩ := hm.first
  exact ⟨g, rest ++ [f], n, body, rfl, hd, hn⟩

theorem Message.append_short (hm : Message channel length fs) (hs : TooShort f) :
    Message channel length (fs ++ [f]) where
  first := hm.first_append f
  numbered := by
    rw [chunksOf_append_short hs]
    exact hm.numbered

theorem Message.append_chunk (hm : Message channel length fs) (hd : decode f = .ok (h, body))
    (hc : h.channel = channel) (hcmd : h.command = apduCommand)
    (hseq : h.seq.toNat = (chunksOf fs).length) : Message channel length (fs ++ [f]) where
  first := hm.first_append f
  numbered := by
    intro i h' body' hi
    rw [chunksOf_append_chunk hd] at hi
    rcases Nat.lt_or_ge i (chunksOf fs).length with hlt | hge
    · rw [List.getElem?_append_left hlt] at hi
      exact hm.numbered i h' body' hi
    · rw [List.getElem?_append_right hge] at hi
      have hz : i - (chunksOf fs).length = 0 := by
        have hl := (List.getElem?_eq_some_iff.1 hi).1
        rw [List.length_singleton] at hl
        omega
      rw [hz] at hi
      cases hi
      exact ⟨hc, hcmd, by omega⟩

theorem Message.single {n : UInt16} (hd : decode f = .ok (⟨channel, apduCommand, 0, some n⟩, body)) :
    Message channel n.toNat [f] where
  first := ⟨f, [], n, body, rfl, hd, rfl⟩
  numbered := by
    intro i h' body' hi
    rw [show [f] = [] ++ [f] from rfl, chunksOf_append_chunk hd] at hi
    obtain ⟨hl, hx⟩ := List.getElem?_eq_some_iff.1 hi
    have hz : i = 0 := Nat.lt_one_iff.1 hl
    subst hz
    cases hx
    exact ⟨rfl, rfl, rfl⟩

end Message

/-! ## The state of an assembly -/

/-- Neither an APDU was given nor a chunk refused. -/
def Quiet (r : Except LinkError (Option Bytes)) : Prop := r = .ok none ∨ r = .error (.wire .badLength)

/-- After some earlier frames a message has begun and is not complete: its bodies are in the buffer. -/
structure UnderWay (channel : UInt16) (earlier fs : List Bytes) (a : Assembly) : Prop where
  message : Message channel a.length fs
  body : a.body.toList = content fs
  short : a.body.size < a.length
  seq : a.seq = UInt16.ofNat (chunksOf fs).length
  count : (chunksOf fs).length ≤ 65536
  channel_eq : a.channel = channel
  quiet : ∀ r ∈ ((empty channel).after earlier).results fs, Quiet r

/-- How far an assembly is after frames. -/
inductive Stage (channel : UInt16) (fs : List Bytes) (a : Assembly) : Prop
  | idle (empty : a = empty channel)
  | underWay (earlier later : List Bytes) (split : fs = earlier ++ later)
      (message : UnderWay channel earlier later a)

namespace Stage

variable {channel : UInt16} {fs : List Bytes} {f body : Bytes} {h : ChunkHeader} {a : Assembly}

theorem channel_eq (hst : Stage channel fs a) : a.channel = channel := by
  cases hst with
  | idle he => rw [he]; rfl
  | underWay _ _ _ hu => exact hu.channel_eq

theorem sized (hst : Stage channel fs a) : a.Sized := by
  cases hst with
  | idle he => rw [he]; exact Nat.zero_le 0
  | underWay _ _ _ hu => exact Nat.le_of_lt hu.short

/-- **The chunk that is expected continues a message or begins one.** -/
theorem expected (hst : Stage channel fs a) (hd : decode f = .ok (h, body)) (he : a.Expects h) :
    ∃ earlier later, fs = earlier ++ later ∧
      Message channel (a.opened h.length).length (later ++ [f]) ∧
      (a.opened h.length).body.toList ++ body = content (later ++ [f]) ∧
      (chunksOf (later ++ [f])).length = h.seq.toNat + 1 ∧
      ∀ r ∈ ((empty channel).after earlier).results later, Quiet r := by
  rcases ChunkHeader.length_of_decode hd with ⟨h0, n, hn⟩ | ⟨h0, hn⟩
  · -- whatever came before is given up
    have hh : h = ⟨channel, apduCommand, 0, some n⟩ := by
      obtain ⟨hc, hcmd, -⟩ := he
      rw [hst.channel_eq] at hc
      cases h
      simp_all
    subst hh
    refine ⟨fs, [], (List.append_nil fs).symm, Message.single hd, ?_, ?_, fun r hr => nomatch hr⟩
    · rw [content_append_chunk hd]
      rfl
    · rw [chunksOf_append_chunk hd]
      rfl
  · cases hst with
    | idle hi =>
      rw [hi] at he
      exact absurd he.seq h0
    | underWay earlier later hs hu =>
      have hcount : h.seq.toNat = (chunksOf later).length := by
        have hle := hu.count
        have hne : h.seq.toNat ≠ 0 := fun hz => h0 (UInt16.toNat_inj.1 hz)
        rw [he.seq, hu.seq, UInt16.toNat_ofNat'] at hne ⊢
        omega
      rw [hn]
      refine ⟨earlier, later, hs, ?_, ?_, ?_, hu.quiet⟩
      · exact hu.message.append_chunk hd (he.channel.trans hu.channel_eq) he.command hcount
      · rw [content_append_chunk hd]
        exact congrArg (· ++ body) hu.body
      · rw [chunksOf_append_chunk hd, List.length_append, List.length_singleton, hcount]

theorem quiet_append {earlier later : List Bytes}
    (hq : ∀ r ∈ ((empty channel).after earlier).results later, Quiet r)
    (hf : Quiet ((((empty channel).after (earlier ++ later)).push f).1)) :
    ∀ r ∈ ((empty channel).after earlier).results (later ++ [f]), Quiet r := by
  intro r hr
  rw [results_append, List.mem_append, ← after_append] at hr
  rcases hr with hr | hr
  · exact hq r hr
  · rw [results_cons, results_nil, List.mem_singleton] at hr
    rwa [hr]

/-- **Whatever frame comes, the assembly is at a stage again.** -/
theorem push (hst : Stage channel fs ((empty channel).after fs)) (f : Bytes) :
    Stage channel (fs ++ [f]) (((empty channel).after fs).push f).2 := by
  have hch := hst.channel_eq
  have hr := push_rule hst.sized f
  generalize ha : (empty channel).after fs = a at hst hch hr
  generalize hres : (a.push f).1 = r at hr
  generalize (a.push f).2 = a' at hr
  cases hr with
  | short hs =>
    cases hst with
    | idle hi => exact .idle hi
    | underWay earlier later split hu =>
      refine .underWay earlier (later ++ [f]) (by rw [split, List.append_assoc]) ?_
      refine ⟨hu.message.append_short hs, ?_, hu.short, ?_, ?_, hu.channel_eq, quiet_append hu.quiet ?_⟩
      · rw [content_append_short hs]
        exact hu.body
      · rw [chunksOf_append_short hs]
        exact hu.seq
      · rw [chunksOf_append_short hs]
        exact hu.count
      · rw [← split, ha, hres]
        exact .inr rfl
  | foreign | disorder | whole => exact .idle (by rw [hch])
  | part hd he hl =>
    obtain ⟨earlier, later, split, hm, hb, hn, hq⟩ := hst.expected hd he
    refine .underWay earlier (later ++ [f]) (by rw [split, List.append_assoc]) ?_
    refine ⟨hm, ?_, ?_, ?_, ?_, hch, quiet_append hq ?_⟩
    · -- there was room for the whole body
      rw [taken, hb, List.length_take] at hl
      show ((a.opened _).taken _).toArray.toList = _
      rw [List.toList_toArray, taken, hb, List.take_of_length_le (by omega)]
    · show Array.size _ < _
      rwa [List.size_toArray]
    · show a.seq + 1 = _
      rw [hn, ← he.seq, ← UInt16.toNat_inj, UInt16.toNat_ofNat', UInt16.toNat_add]
      rfl
    · rw [hn]
      exact UInt16.toNat_lt _
    · rw [← split, ha, hres]
      exact .inl rfl

end Stage

theorem stage_after (channel : UInt16) (fs : List Bytes) :
    Stage channel fs ((empty channel).after fs) := by
  induction fs using List.reverseRecOn with
  | nil => exact .idle rfl
  | append_singleton fs f ih =>
    rw [after_append]
    exact ih.push f

/-- **An APDU is assembled from one message.** Frames with any bytes are pushed into a new assembly. If
a frame then completes an APDU, the latest chunk 0 announced its length, and it is the start of the
bodies that came since; all chunks since then are of the channel and the command and in order, and
none was refused and no APDU was given since. In between the buffer never holds more than was
announced: it is as new, or it holds the bodies of a message that is not complete. A chunk of another
channel or command, or out of order, makes the assembly new again; a frame that is too short changes
nothing. -/
theorem assembled_from_message (channel : UInt16) (fs : List Bytes) (f : Bytes) :
    let a := (empty channel).after fs
    (∀ apdu, (a.push f).1 = .ok (some apdu) →
      ∃ earlier later, fs = earlier ++ later ∧ Message channel apdu.length (later ++ [f]) ∧
        apdu = (content (later ++ [f])).take apdu.length ∧
        ∀ r ∈ ((empty channel).after earlier).results later, Quiet r) ∧
    a.body.size ≤ a.length ∧
    (a = empty channel ∨
      ∃ earlier later, fs = earlier ++ later ∧ UnderWay channel earlier later a) ∧
    (∀ h body, decode f = .ok (h, body) → h.channel ≠ channel ∨ h.command ≠ apduCommand →
      a.push f = (.error (.channel h.channel h.command), empty channel)) ∧
    (∀ h body, decode f = .ok (h, body) → h.channel = channel → h.command = apduCommand →
      h.seq ≠ a.seq → a.push f = (.error (.sequence a.seq h.seq), empty channel)) ∧
    (TooShort f → a.push f = (.error (.wire .badLength), a)) := by
  intro a
  have hst : Stage channel fs a := stage_after channel fs
  have hch := hst.channel_eq
  refine ⟨fun apdu happ => ?_, hst.sized, ?_, fun h body hd ho => ?_, fun h body hd hc hm hs => ?_,
    push_of_tooShort⟩
  · have hr := push_rule hst.sized f
    rw [happ] at hr
    generalize (a.push f).2 = a' at hr
    cases hr with
    | whole hd he hl =>
      obtain ⟨earlier, later, split, hm, hb, -, hq⟩ := hst.expected hd he
      refine ⟨earlier, later, split, by rwa [hl], ?_, hq⟩
      rw [hl, taken, hb]
  · cases hst with
    | idle hi => exact .inl hi
    | underWay earlier later split hu => exact .inr ⟨earlier, later, split, hu⟩
  · rw [← hch] at ho ⊢
    exact push_of_foreign hd ho
  · rw [← hch] at hc ⊢
    exact push_of_disorder hd hc hm hs

/-- A frame that is no chunk comes between two chunks, and the second has more bytes than are wanted. -/
example :
    (empty 0).results [[0, 0, 5, 0, 0, 0, 3, 1], [9], [0, 0, 5, 0, 1, 2, 3, 4]] =
      [.ok none, .error (.wire .badLength), .ok (some [1, 2, 3])] := by decide

end Seph.Assembly
