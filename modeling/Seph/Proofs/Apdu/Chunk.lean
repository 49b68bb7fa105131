import Seph.Apdu.Chunk
import Seph.Proofs.Wire

/-!
# The chunks of an APDU

1. `decode_eq_error_iff` and `exact_decode`: a frame is refused exactly when it is too short for a
   header, and what is read is a header that carries a length exactly in chunk 0.
2. `chunks_of_le`: an APDU of a length that can be announced becomes numbered chunks; each is a
   header, a body and, to fill the frame, zero bytes.
3. `header_of_chunks` and `length_of_mem_chunks`: what is read from these chunks, and how long they are.
-/

namespace Seph

namespace ChunkHeader

/-! ## Headers -/

/-- The frame ends within its header: it has no sequence number, or sequence number 0 and no length. -/
def TooShort (f : Bytes) : Prop :=
  f.length < 5 ∨ f.length < 7 ∧ f[3]? = some 0 ∧ f[4]? = some 0

theorem decode_eq_error_iff {f : Bytes} {e : WireError} :
    decode f = .error e ↔ e = .badLength ∧ TooShort f := by
  match f with
  | [] | [_] | [_, _] | [_, _, _] | [_, _, _, _] =>
    simp only [decode, TooShort, Except.error.injEq]
    simp [eq_comm]
  | c₁ :: c₂ :: command :: s₁ :: s₂ :: rest =>
    by_cases hs : Word.ofBE16 s₁ s₂ = 0
    · obtain ⟨rfl, rfl⟩ := Word.ofBE16_eq_zero_iff.1 hs
      match rest with
      | [] | [_] =>
        simp only [decode, TooShort, hs, if_true, Except.error.injEq]
        simp [eq_comm]
      | l₁ :: l₂ :: body =>
        simp only [decode, TooShort, hs, if_true]
        simp
    · have hz : ¬(s₁ = 0 ∧ s₂ = 0) := mt Word.ofBE16_eq_zero_iff.2 hs
      simp [decode, TooShort, hs, hz]

/-- A length is carried exactly by a header with sequence number 0. -/
def Proper (h : ChunkHeader) : Prop := h.length.isSome ↔ h.seq = 0

theorem proper_make (channel seq n : UInt16) : (make channel seq n).Proper := by
  unfold Proper make
  dsimp only
  split <;> simp [*]

theorem Proper.decode_append {h : ChunkHeader} (hp : h.Proper) (rest : Bytes) :
    decode (h.encode ++ rest) = .ok (h, rest) := by
  obtain ⟨channel, command, seq, length⟩ := h
  obtain ⟨c₁, c₂, hc, hc'⟩ := Word.exists_be16 channel
  obtain ⟨s₁, s₂, hs, hs'⟩ := Word.exists_be16 seq
  cases length with
  | none =>
    have h0 : seq ≠ 0 := fun h0 => absurd (hp.2 h0) (by simp)
    simp [encode, decode, hc, hs, hc', hs', h0]
  | some n =>
    have h0 : seq = 0 := hp.1 rfl
    subst h0
    obtain ⟨n₁, n₂, hn, hn'⟩ := Word.exists_be16 n
    simp [encode, decode, hc, hs, hn, hc', hs', hn']

/-- **A header is read exactly where its bytes stand, if it carries a length exactly in chunk 0.** -/
theorem exact_decode : Wire.Exact decode fun h enc => h.encode = enc ∧ h.Proper := by
  intro bs h body
  constructor
  · intro hd
    suffices h.Proper ∧ bs = h.encode ++ body from ⟨_, ⟨rfl, this.1⟩, this.2⟩
    unfold decode at hd
    split at hd
    · dsimp only at hd
      split at hd
      · rename_i hs
        split at hd
        · cases hd
          refine ⟨iff_of_true rfl hs, ?_⟩
          simp only [encode, Word.be16_ofBE16, List.cons_append, List.nil_append]
        · cases hd
      · rename_i hs
        cases hd
        refine ⟨iff_of_false Bool.false_ne_true hs, ?_⟩
        simp only [encode, Word.be16_ofBE16, List.cons_append, List.nil_append, List.append_nil]
    · cases hd
  · rintro ⟨_, ⟨rfl, hp⟩, rfl⟩
    exact hp.decode_append body

theorem length_of_decode {f body : Bytes} {h : ChunkHeader} (hd : decode f = .ok (h, body)) :
    (h.seq = 0 ∧ ∃ n, h.length = some n) ∨ (h.seq ≠ 0 ∧ h.length = none) := by
  obtain ⟨-, ⟨-, hp⟩, -⟩ := (exact_decode _ _ _).1 hd
  unfold Proper at hp
  cases hl : h.length with
  | none =>
    rw [hl] at hp
    exact .inr ⟨fun h0 => Bool.false_ne_true (hp.2 h0), rfl⟩
  | some n =>
    rw [hl] at hp
    exact .inl ⟨hp.1 rfl, n, rfl⟩

theorem decode_encode (channel seq n : UInt16) (rest : Bytes) :
    decode ((make channel seq n).encode ++ rest) = .ok (make channel seq n, rest) :=
  (proper_make channel seq n).decode_append rest

theorem length_encode_make (channel seq n : UInt16) :
    (make channel seq n).encode.length = if seq = 0 then 7 else 5 := by
  by_cases h0 : seq = 0
  · simp [encode, make, Word.be16, h0]
  · simp [encode, make, Word.be16, h0]

end ChunkHeader

/-! ## Chunks -/

namespace Apdu

/-- The zero bytes that fill a frame up behind `n` bytes. -/
def filling (frame : Nat) (fill : Bool) (n : Nat) : Bytes :=
  if fill then List.replicate (frame - n) 0 else []

theorem filling_of_le {frame n : Nat} (h : frame ≤ n) (fill : Bool) : filling frame fill n = [] := by
  unfold filling
  split
  · rw [Nat.sub_eq_zero_of_le h]
    rfl
  · rfl

/-- The size of the header of a chunk. -/
def headerSize (seq : Nat) : Nat := if seq = 0 then 7 else 5

/-- The chunk of an APDU of `n` bytes with a given body and sequence number. -/
def chunk (channel : UInt16) (frame : Nat) (fill : Bool) (n : Nat) (body : Bytes) (seq : Nat) : Bytes :=
  (ChunkHeader.make channel (UInt16.ofNat seq) (UInt16.ofNat n)).encode ++ body ++
    filling frame fill (headerSize seq + body.length)

theorem ofNat_eq_zero_iff {seq : Nat} (h : seq < 65536) : UInt16.ofNat seq = 0 ↔ seq = 0 := by
  rw [← UInt16.toNat_inj, UInt16.toNat_ofNat']
  show seq % 65536 = 0 ↔ seq = 0
  omega

section Chunk

variable {frame seq : Nat} {fill : Bool} {body apdu : Bytes}

theorem length_header (channel : UInt16) (n : Nat) (hs : seq < 65536) :
    (ChunkHeader.make channel (UInt16.ofNat seq) (UInt16.ofNat n)).encode.length = headerSize seq := by
  simp only [ChunkHeader.length_encode_make, headerSize, ofNat_eq_zero_iff hs]

/-- A chunk is read as its header and its body, before what fills the frame. -/
theorem decode_chunk (channel : UInt16) (n : Nat) :
    ChunkHeader.decode (chunk channel frame fill n body seq) =
      .ok (ChunkHeader.make channel (UInt16.ofNat seq) (UInt16.ofNat n),
        body ++ filling frame fill (headerSize seq + body.length)) := by
  rw [chunk, List.append_assoc, ChunkHeader.decode_encode]

/-- A body that fits makes a chunk that fits, and the frame is filled up if it is to be. -/
theorem length_chunk (channel : UInt16) (n : Nat) (hs : seq < 65536)
    (hb : headerSize seq + body.length ≤ frame) :
    (chunk channel frame fill n body seq).length ≤ frame ∧
      (fill = true → (chunk channel frame fill n body seq).length = frame) := by
  have hl := length_header channel n hs
  rw [chunk, List.length_append, List.length_append, hl, filling]
  cases fill with
  | false => exact ⟨hb, fun h => Bool.noConfusion h⟩
  | true =>
    rw [if_pos rfl, List.length_replicate]
    omega

theorem resize_of_le {bs : Bytes} (h : bs.length ≤ frame) :
    Bytes.resize frame bs = bs ++ filling frame true bs.length := by
  rw [Bytes.resize, List.take_of_length_le h, filling, if_pos rfl]

/-! ## The bodies of an APDU -/

theorem length_of_bodies (hf : 7 ≤ frame) (h : (bodies frame apdu)[seq]? = some body) :
    headerSize seq + body.length ≤ frame := by
  cases seq with
  | zero =>
    cases h
    rw [headerSize, if_pos rfl, List.length_take]
    omega
  | succ seq =>
    have hl := Bytes.length_of_mem_pieces (List.mem_of_getElem? h)
    rw [headerSize, if_neg (Nat.succ_ne_zero seq)]
    omega

theorem length_bodies_le (hl : apdu.length ≤ 65535) : (bodies frame apdu).length ≤ 65536 := by
  have hp := Bytes.length_pieces_le (frame - 5) (apdu.drop (frame - 7))
  rw [List.length_drop] at hp
  rw [bodies, List.length_cons]
  omega

theorem lt_of_bodies (hl : apdu.length ≤ 65535) (h : (bodies frame apdu)[seq]? = some body) :
    seq < 65536 :=
  Nat.lt_of_lt_of_le (List.getElem?_eq_some_iff.1 h).1 (length_bodies_le hl)

/-- **An APDU becomes numbered chunks.** -/
theorem chunks_of_le (channel : UInt16) (hf : 7 ≤ frame) (hl : apdu.length ≤ 65535) :
    chunks channel frame fill apdu =
      .ok ((bodies frame apdu).zipIdx.map fun x => chunk channel frame fill apdu.length x.1 x.2) := by
  have hn : ¬ apdu.length > maxLength := Nat.not_lt.2 hl
  rw [chunks, if_neg hn]
  refine congrArg Except.ok (List.map_congr_left ?_)
  intro ⟨body, seq⟩ hx
  have hb := List.mk_mem_zipIdx_iff_getElem?.1 hx
  have hh := length_header channel apdu.length (lt_of_bodies hl hb)
  have hle := length_of_bodies hf hb
  cases fill with
  | false => simp [chunk, filling]
  | true =>
    simp only [if_true, chunk]
    rw [resize_of_le (by rw [List.length_append, hh]; exact hle), List.length_append, hh]

theorem chunks_of_lt (channel : UInt16) (h : 65535 < apdu.length) :
    chunks channel frame fill apdu = .error (.tooLarge apdu.length) := if_pos h

theorem le_of_chunks {channel : UInt16} {cs : List Bytes}
    (h : chunks channel frame fill apdu = .ok cs) : apdu.length ≤ 65535 := by
  refine Nat.le_of_not_lt fun hl => ?_
  rw [chunks_of_lt channel hl] at h
  cases h

section Member

variable {channel : UInt16} {cs : List Bytes} {c : Bytes}

theorem body_of_chunks (hf : 7 ≤ frame) (h : chunks channel frame fill apdu = .ok cs)
    (hc : cs[seq]? = some c) :
    ∃ body, (bodies frame apdu)[seq]? = some body ∧
      c = chunk channel frame fill apdu.length body seq := by
  rw [chunks_of_le channel hf (le_of_chunks h)] at h
  cases h
  rw [List.getElem?_map, List.getElem?_zipIdx, Option.map_map, Nat.zero_add] at hc
  obtain ⟨body, hb, rfl⟩ := Option.map_eq_some_iff.1 hc
  exact ⟨body, hb, rfl⟩

/-- Chunks are numbered from 0, and chunk 0 announces the length. -/
theorem header_of_chunks (hf : 7 ≤ frame) (h : chunks channel frame fill apdu = .ok cs)
    (hc : cs[seq]? = some c) :
    ∃ header body, ChunkHeader.decode c = .ok (header, body) ∧ header.channel = channel ∧
      header.command = ChunkHeader.apduCommand ∧ header.seq.toNat = seq ∧
      header.length = if seq = 0 then some (UInt16.ofNat apdu.length) else none := by
  obtain ⟨body, hb, rfl⟩ := body_of_chunks hf h hc
  have hs : seq < 65536 := lt_of_bodies (le_of_chunks h) hb
  refine ⟨_, _, decode_chunk channel apdu.length, rfl, rfl, ?_, ?_⟩
  · show (UInt16.ofNat seq).toNat = seq
    rw [UInt16.toNat_ofNat']
    omega
  · simp only [ChunkHeader.make, ofNat_eq_zero_iff hs]

theorem length_of_mem_chunks (hf : 7 ≤ frame) (h : chunks channel frame fill apdu = .ok cs)
    (hc : c ∈ cs) : c.length ≤ frame ∧ (fill = true → c.length = frame) := by
  obtain ⟨seq, hseq⟩ := List.mem_iff_getElem?.1 hc
  obtain ⟨body, hb, rfl⟩ := body_of_chunks hf h hseq
  exact length_chunk channel apdu.length (lt_of_bodies (le_of_chunks h) hb) (length_of_bodies hf hb)

end Member

end Chunk

end Apdu
end Seph
