import Seph.Packet.Stream
import Seph.Proofs.Bytes

/-!
# Reading packets off a stream

A reader that takes one value after the other stops at the first bytes that hold none. What it has
read until then, and where it stands, is a relation of its own (`Framing.Reads`), which says nothing
of how far the reader goes.

1. `Framing.readAll_eq_iff`: reading all is reading until no value can be read, as is taking all
   (`Framing.takeAll_eq_iff`); `Framing.reads_flatMap`: encodings that are read back one by one are read
   back one behind the other.
2. `Packet.take?_eq_ok_iff`: a packet is at the start of the bytes exactly when its encoding is, and
   `Packet.take?_of_cut`: an encoding that is cut off holds no packet.
3. `Packet.reads_iff`: what was read of a stream are the encodings of the packets read.
4. `Packet.stream_carries_packets`: packets, their encodings, and what is left of them in a stream that
   is cut off.
-/

namespace Seph

namespace Framing

variable {ε α : Type} (f : Framing ε α)

/-- The values were read one after the other, from the first bytes to where the second begin. -/
inductive Reads : Bytes → List α → Bytes → Prop
  | nil (bs : Bytes) : Reads bs [] bs
  | cons {bs mid rest : Bytes} {a : α} {as : List α} (first : f.take? bs = some (.ok a, mid))
    (others : Reads mid as rest) : Reads bs (a :: as) rest

/-- No value can be read here: the stream ends before there is one, and all that is left is used up,
or the bytes are refused. -/
def Stops (rest : Bytes) : Stop ε × Bytes → Prop
  | (.ended, left) => f.take? rest = none ∧ left = []
  | (.refused e, left) => f.take? rest = some (.error e, left)

section ReadAll

variable {f} {bs mid rest left : Bytes} {a : α} {as : List α} {stop : Stop ε}

theorem readAll_of_none (h : f.take? bs = none) : f.readAll bs = ([], .ended, []) := by
  rw [readAll, takeAll_of_none h]

theorem readAll_of_error {e : ε} (h : f.take? bs = some (.error e, rest)) :
    f.readAll bs = ([], .refused e, rest) := by
  rw [readAll, takeAll_of_error h]

theorem readAll_of_ok (h : f.take? bs = some (.ok a, mid)) :
    f.readAll bs = (a :: (f.readAll mid).1, (f.readAll mid).2) := by
  unfold readAll
  rw [takeAll_of_ok h]
  rcases f.takeAll mid with ⟨as, _ | e, left⟩ <;> rfl

theorem readAll_of_stops (h : f.Stops rest (stop, left)) : f.readAll rest = ([], stop, left) := by
  cases stop with
  | ended =>
    obtain ⟨hn, rfl⟩ := h
    exact readAll_of_none hn
  | refused e => exact readAll_of_error h

theorem readAll_of_reads (hr : f.Reads bs as rest) (hs : f.Stops rest (stop, left)) :
    f.readAll bs = (as, stop, left) := by
  induction hr with
  | nil => exact readAll_of_stops hs
  | cons first _ ih => rw [readAll_of_ok first, ih hs]

variable (f) in
theorem exists_reads (bs : Bytes) :
    ∃ rest, f.Reads bs (f.readAll bs).1 rest ∧ f.Stops rest (f.readAll bs).2 := by
  induction hn : bs.length using Nat.strongRecOn generalizing bs with
  | ind n ih =>
    subst hn
    match ht : f.take? bs with
    | none =>
      rw [readAll_of_none ht]
      exact ⟨bs, .nil bs, ht, rfl⟩
    | some (.error e, rest) =>
      rw [readAll_of_error ht]
      exact ⟨bs, .nil bs, ht⟩
    | some (.ok a, mid) =>
      obtain ⟨rest, hr, hs⟩ := ih _ (f.shorter ht) mid rfl
      rw [readAll_of_ok ht]
      exact ⟨rest, .cons ht hr, hs⟩

theorem readAll_eq_iff :
    f.readAll bs = (as, stop, left) ↔ ∃ rest, f.Reads bs as rest ∧ f.Stops rest (stop, left) := by
  constructor
  · intro h
    obtain ⟨rest, hr, hs⟩ := f.exists_reads bs
    rw [h] at hr hs
    exact ⟨rest, hr, hs⟩
  · rintro ⟨rest, hr, hs⟩
    exact readAll_of_reads hr hs

/-- What can be taken off the bytes is read one after the other, up to where nothing can be. -/
theorem takeAll_eq_iff : f.takeAll bs = (as, none, rest) ↔ f.Reads bs as rest ∧ f.take? rest = none := by
  constructor
  · intro h
    induction hn : bs.length using Nat.strongRecOn generalizing bs as with
    | ind n ih =>
      subst hn
      match ht : f.take? bs with
      | none =>
        rw [takeAll_of_none ht] at h
        cases h
        exact ⟨.nil _, ht⟩
      | some (.error e, mid) =>
        rw [takeAll_of_error ht] at h
        cases h
      | some (.ok a, mid) =>
        rw [takeAll_of_ok ht] at h
        obtain ⟨rfl, hm⟩ := Prod.mk.inj h
        obtain ⟨hr, hs⟩ := ih _ (f.shorter ht) (Prod.ext rfl hm) rfl
        exact ⟨.cons ht hr, hs⟩
  · rintro ⟨hr, hs⟩
    induction hr with
    | nil => exact takeAll_of_none hs
    | cons first _ ih => rw [takeAll_of_ok first, ih hs]

theorem fst_readAll (bs : Bytes) : (f.readAll bs).1 = (f.takeAll bs).1 := by
  unfold readAll
  rcases f.takeAll bs with ⟨as, _ | e, left⟩ <;> rfl

/-- What holds of every value that can be at the start of bytes holds of all that are read. -/
theorem Reads.forall_mem {P : α → Prop} (hr : f.Reads bs as rest)
    (h : ∀ bs a mid, f.take? bs = some (.ok a, mid) → P a) : ∀ a ∈ as, P a := by
  induction hr with
  | nil => exact nofun
  | cons first _ ih => exact List.forall_mem_cons.2 ⟨h _ _ _ first, ih⟩

/-- Values that are each read back from their encoding, whatever follows, are read back from their
encodings one behind the other. -/
theorem reads_flatMap {encode : α → Bytes} (rest : Bytes)
    (h : ∀ a ∈ as, ∀ after, f.take? (encode a ++ after) = some (.ok a, after)) :
    f.Reads (as.flatMap encode ++ rest) as rest := by
  induction as with
  | nil => exact .nil rest
  | cons a as ih =>
    obtain ⟨ha, has⟩ := List.forall_mem_cons.1 h
    rw [List.flatMap_cons, List.append_assoc]
    exact .cons (ha _) (ih has)

end ReadAll

end Framing

namespace Packet

/-! ## One packet -/

section One

variable {p : Packet} {bs enc cut rest : Bytes}

theorem encode_eq_ok_iff :
    p.encode = .ok enc ↔ p.payload.length ≤ maxPayload ∧ enc = p.header.encode ++ p.payload := by
  unfold encode
  split
  · rename_i h
    exact iff_of_false nofun fun hp => Nat.not_lt_of_le hp.1 h
  · rename_i h
    rw [Except.ok.injEq]
    exact ⟨fun he => ⟨Nat.le_of_not_lt h, he.symm⟩, fun he => he.2.symm⟩

theorem exists_header (h : p.payload.length ≤ maxPayload) :
    ∃ a b, p.header.encode = [p.tag.code, a, b] ∧ (Word.ofBE16 a b).toNat = p.payload.length := by
  obtain ⟨a, b, hw, hn⟩ := Word.exists_be16 (UInt16.ofNat p.payload.length)
  refine ⟨a, b, congrArg (p.tag.code :: ·) hw, ?_⟩
  unfold maxPayload at h
  rw [hn, UInt16.toNat_ofNat']
  omega

theorem take?_cons (t a b : UInt8) (rest : Bytes) :
    take? (t :: a :: b :: rest) =
      match Tag.ofCode t with
      | .error e => some (.error e, rest)
      | .ok tag => (Bytes.cut? (Word.ofBE16 a b).toNat rest).map fun (payload, rest) =>
          (.ok ⟨tag, payload⟩, rest) := rfl

theorem ofCode_code (t : Tag) : Tag.ofCode t.code = .ok t := by
  rw [Tag.ofCode, Tag.ofCode?_code]

theorem code_of_ofCode {b : UInt8} {t : Tag} (h : Tag.ofCode b = .ok t) : t.code = b := by
  unfold Tag.ofCode at h
  split at h
  · rename_i ht
    cases h
    exact Tag.code_of_ofCode? ht
  · cases h

/-- **A packet is at the start of the bytes exactly when its encoding is.** -/
theorem take?_eq_ok_iff :
    take? bs = some (.ok p, rest) ↔ ∃ enc, p.encode = .ok enc ∧ bs = enc ++ rest := by
  constructor
  · intro h
    unfold take? at h
    split at h
    · rename_i t a b after
      split at h
      · cases h
      · rename_i tag ht
        obtain ⟨⟨payload, left⟩, hc, he⟩ := Option.map_eq_some_iff.1 h
        cases he
        obtain ⟨rfl, hl⟩ := Bytes.cut?_eq_some_iff.1 hc
        have hw : payload.length ≤ maxPayload := by
          have := (Word.ofBE16 a b).toNat_lt
          unfold maxPayload
          omega
        have hb : Word.be16 (UInt16.ofNat payload.length) = [a, b] := by
          rw [hl, UInt16.ofNat_toNat]
          exact Word.be16_ofBE16 a b
        refine ⟨_, encode_eq_ok_iff.2 ⟨hw, rfl⟩, ?_⟩
        simp only [PacketHeader.encode, header, hb, code_of_ofCode ht, List.cons_append, List.nil_append]
    · cases h
  · rintro ⟨enc, he, rfl⟩
    obtain ⟨hw, rfl⟩ := encode_eq_ok_iff.1 he
    obtain ⟨a, b, hh, hn⟩ := exists_header hw
    have hc : Bytes.cut? (Word.ofBE16 a b).toNat (p.payload ++ rest) = some (p.payload, rest) :=
      Bytes.cut?_eq_some_iff.2 ⟨rfl, hn.symm⟩
    rw [hh, List.append_assoc]
    show take? (p.tag.code :: a :: b :: (p.payload ++ rest)) = _
    rw [take?_cons, ofCode_code]
    dsimp only
    rw [hc]
    rfl

theorem le_maxPayload_of_mem_takeAll {bs : Bytes} {p : Packet} (h : p ∈ (stream.takeAll bs).1) :
    p.payload.length ≤ maxPayload := by
  obtain ⟨rest, hr, -⟩ := stream.exists_reads bs
  rw [Framing.fst_readAll] at hr
  refine hr.forall_mem (P := fun p => p.payload.length ≤ maxPayload) (fun bs q mid hq => ?_) p h
  obtain ⟨enc, he, -⟩ := take?_eq_ok_iff.1 hq
  exact (encode_eq_ok_iff.1 he).1

/-- **An encoding that is cut off holds no packet**, and nothing that is refused. -/
theorem take?_of_cut (he : p.encode = .ok enc) (hc : cut <+: enc) (hne : cut ≠ enc) :
    take? cut = none := by
  obtain ⟨hw, rfl⟩ := encode_eq_ok_iff.1 he
  obtain ⟨a, b, hh, hn⟩ := exists_header hw
  obtain ⟨lost, hl⟩ := hc
  have hlost : lost ≠ [] := fun h => hne (by rw [← hl, h, List.append_nil])
  rw [hh] at hl
  match cut with
  | [] | [_] | [_, _] => rfl
  | t :: a' :: b' :: payload =>
    simp only [List.cons_append, List.nil_append, List.cons.injEq] at hl
    obtain ⟨rfl, rfl, rfl, hp⟩ := hl
    have hshort : payload.length < (Word.ofBE16 a' b').toNat := by
      rw [hn, ← hp, List.length_append]
      have := List.length_pos_iff.2 hlost
      omega
    rw [take?_cons, ofCode_code]
    dsimp only
    rw [Bytes.cut?_eq_none_iff.2 hshort]
    rfl

end One

/-! ## Several packets -/

/-- The encodings of packets, one behind the other. -/
def encodeAll : List Packet → Except WireError Bytes
  | [] => .ok []
  | p :: ps => do
    let enc ← p.encode
    let more ← encodeAll ps
    return enc ++ more

section Several

variable {p : Packet} {ps : List Packet} {bs enc pre rest : Bytes}

theorem encodeAll_cons_eq_ok_iff : encodeAll (p :: ps) = .ok enc ↔
    ∃ first more, p.encode = .ok first ∧ encodeAll ps = .ok more ∧ enc = first ++ more := by
  rw [encodeAll]
  cases p.encode with
  | error e => simp [bind, Except.bind]
  | ok first =>
    cases encodeAll ps with
    | error e => simp [bind, Except.bind]
    | ok more => simp [bind, Except.bind, pure, Except.pure, eq_comm]

theorem exists_encodeAll (h : ∀ p ∈ ps, p.payload.length ≤ maxPayload) :
    ∃ enc, encodeAll ps = .ok enc := by
  induction ps with
  | nil => exact ⟨[], rfl⟩
  | cons p ps ih =>
    obtain ⟨hp, hps⟩ := List.forall_mem_cons.1 h
    obtain ⟨more, hm⟩ := ih hps
    exact ⟨_, encodeAll_cons_eq_ok_iff.2 ⟨_, more, encode_eq_ok_iff.2 ⟨hp, rfl⟩, hm, rfl⟩⟩

/-- **What was read of a stream are the encodings of the packets read.** -/
theorem reads_iff : stream.Reads bs ps rest ↔ ∃ enc, encodeAll ps = .ok enc ∧ bs = enc ++ rest := by
  constructor
  · intro h
    induction h with
    | nil => exact ⟨[], rfl, rfl⟩
    | cons first _ ih =>
      obtain ⟨one, ho, rfl⟩ := take?_eq_ok_iff.1 first
      obtain ⟨more, hm, rfl⟩ := ih
      exact ⟨one ++ more, encodeAll_cons_eq_ok_iff.2 ⟨one, more, ho, hm, rfl⟩, by rw [List.append_assoc]⟩
  · rintro ⟨enc, he, rfl⟩
    induction ps generalizing enc with
    | nil =>
      cases he
      exact .nil rest
    | cons p ps ih =>
      obtain ⟨one, more, ho, hm, rfl⟩ := encodeAll_cons_eq_ok_iff.1 he
      have first : take? (one ++ more ++ rest) = some (.ok p, more ++ rest) :=
        take?_eq_ok_iff.2 ⟨one, ho, List.append_assoc one more rest⟩
      exact .cons first (ih more hm)

/-- The bytes are a proper prefix of the encodings of packets, and these are the packets that lie whole
within them: they are cut off within the encoding of the next one. -/
def CutBehind (ps : List Packet) (pre : Bytes) (whole : List Packet) : Prop :=
  ∃ p more done enc cut, ps = whole ++ p :: more ∧ encodeAll whole = .ok done ∧ pre = done ++ cut ∧
    p.encode = .ok enc ∧ cut <+: enc ∧ cut ≠ enc

/-- A stream that is cut off is cut off within the encoding of one packet. -/
theorem exists_cutBehind (he : encodeAll ps = .ok enc) (hp : pre <+: enc) (hne : pre ≠ enc) :
    ∃ whole, CutBehind ps pre whole := by
  induction ps generalizing enc pre with
  | nil =>
    cases he
    exact absurd (List.prefix_nil.1 hp) hne
  | cons p ps ih =>
    obtain ⟨first, more, hf, hm, rfl⟩ := encodeAll_cons_eq_ok_iff.1 he
    rcases Nat.lt_or_ge pre.length first.length with hlt | hle
    · have hc : pre <+: first :=
        List.prefix_of_prefix_length_le hp (List.prefix_append _ _) (Nat.le_of_lt hlt)
      have hd : pre ≠ first := fun h => Nat.lt_irrefl _ (h ▸ hlt)
      exact ⟨[], p, ps, [], first, pre, rfl, rfl, rfl, hf, hc, hd⟩
    · obtain ⟨behind, rfl⟩ := List.prefix_of_prefix_length_le (List.prefix_append first more) hp hle
      have hp : behind <+: more := (List.prefix_append_right_inj first).1 hp
      have hne : behind ≠ more := fun h => hne (by rw [h])
      obtain ⟨whole, q, others, done, enc, cut, rfl, hd, rfl, hq⟩ := ih hm hp hne
      refine ⟨p :: whole, q, others, first ++ done, enc, cut, rfl, ?_, ?_, hq⟩
      · exact encodeAll_cons_eq_ok_iff.2 ⟨first, done, hf, hd, rfl⟩
      · rw [List.append_assoc]

/-- A stream that is cut off is read up to the packet within which it is cut off. -/
theorem readAll_of_cutBehind {whole : List Packet} (h : CutBehind ps pre whole) :
    stream.readAll pre = (whole, .ended, []) := by
  obtain ⟨p, more, done, enc, cut, -, hd, rfl, he, hc, hne⟩ := h
  exact Framing.readAll_eq_iff.2 ⟨cut, reads_iff.2 ⟨done, hd, rfl⟩, take?_of_cut he hc hne, rfl⟩

end Several

/-- **A stream carries packets.** Reading all of the encodings of packets whose payloads fit gives
these packets, and then the stream has ended with nothing left. Of what a stream holds that was cut off
anywhere, exactly the packets that lie whole within it are read, and then the stream has ended. And
whatever the bytes are, the packets read before the reader stops encode to the bytes that it had read
before then. -/
theorem stream_carries_packets :
    (∀ ps : List Packet, (∀ p ∈ ps, p.payload.length ≤ maxPayload) →
      ∃ enc, encodeAll ps = .ok enc ∧ stream.readAll enc = (ps, .ended, []) ∧
        ∀ pre, pre <+: enc → pre ≠ enc →
          (∃ whole, CutBehind ps pre whole) ∧
            ∀ whole, CutBehind ps pre whole → stream.readAll pre = (whole, .ended, [])) ∧
    ∀ bs : Bytes, ∃ enc rest, bs = enc ++ rest ∧
      stream.Reads bs (stream.readAll bs).1 rest ∧ stream.Stops rest (stream.readAll bs).2 ∧
      encodeAll (stream.readAll bs).1 = .ok enc := by
  constructor
  · intro ps hps
    obtain ⟨enc, he⟩ := exists_encodeAll hps
    refine ⟨enc, he, ?_, fun pre hp hne => ?_⟩
    · exact Framing.readAll_eq_iff.2 ⟨[], reads_iff.2 ⟨enc, he, (List.append_nil enc).symm⟩, rfl, rfl⟩
    · exact ⟨exists_cutBehind he hp hne, fun whole => readAll_of_cutBehind⟩
  · intro bs
    obtain ⟨rest, hr, hs⟩ := stream.exists_reads bs
    obtain ⟨enc, he, hb⟩ := reads_iff.1 hr
    exact ⟨enc, rest, hb, hr, hs, he⟩

/-- Two packets; of a stream that ends within the header of the second, the first is read. -/
theorem stream_carries_two_packets :
    let status : Packet := ⟨.generalStatus, [0, 0]⟩
    let response : Packet := ⟨.rapdu, [0x90, 0]⟩
    let bs : Bytes := [0x60, 0, 2, 0, 0, 0x53, 0, 2, 0x90, 0]
    (∀ p ∈ [status, response], p.payload.length ≤ maxPayload) ∧
      encodeAll [status, response] = .ok bs ∧
      stream.readAll bs = ([status, response], .ended, []) ∧
      bs.take 7 <+: bs ∧ bs.take 7 ≠ bs ∧
      CutBehind [status, response] (bs.take 7) [status] ∧
      stream.readAll (bs.take 7) = ([status], .ended, []) := by
  intro status response bs
  have hps : ∀ p ∈ [status, response], p.payload.length ≤ maxPayload := by decide
  have hall : encodeAll [status, response] = .ok bs := by cbv
  obtain ⟨enc, he, hr, hcut⟩ := stream_carries_packets.1 [status, response] hps
  obtain rfl : bs = enc := Except.ok.inj (hall.symm.trans he)
  have hp : bs.take 7 <+: bs := List.take_prefix 7 bs
  have hne : bs.take 7 ≠ bs := by decide
  have hc : CutBehind [status, response] (bs.take 7) [status] :=
    ⟨response, [], bs.take 5, bs.drop 5, [0x53, 0], rfl, by cbv, rfl, by cbv, ⟨[2, 0x90, 0], rfl⟩,
      by decide⟩
  exact ⟨hps, he, hr, hp, hne, hc, (hcut (bs.take 7) hp hne).2 [status] hc⟩

end Packet
end Seph
