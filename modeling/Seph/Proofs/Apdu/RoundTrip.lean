import Seph.Proofs.Apdu.Assembly

/-!
# Chunks are put together again

An APDU is cut into chunks and these are pushed in order. While chunks are to come, the assembly holds
what the chunks before carried, and the next number (`delivers_rest`); the filling of the last chunk is
beyond the announced length. The main statement is `chunks_reassemble`.
-/

namespace Seph

namespace Assembly

open Apdu (chunk filling filling_of_le headerSize bodies)

/-! ## Delivery -/

/-- The last frame completes the APDU, the others are taken in silence, and the assembly is new after
that. -/
inductive Delivers (apdu : Bytes) : Assembly → List Bytes → Prop
  | last {a : Assembly} {f : Bytes} (push : a.push f = (.ok (some apdu), empty a.channel)) :
    Delivers apdu a [f]
  | more {a a' : Assembly} {f : Bytes} {fs : List Bytes} (push : a.push f = (.ok none, a'))
      (channel : a'.channel = a.channel) (rest : Delivers apdu a' fs) : Delivers apdu a (f :: fs)

namespace Delivers

variable {apdu : Bytes} {a : Assembly} {fs : List Bytes}

theorem length_pos (h : Delivers apdu a fs) : 0 < fs.length := by
  cases h <;> exact Nat.succ_pos _

theorem results_eq (h : Delivers apdu a fs) :
    a.results fs = List.replicate (fs.length - 1) (.ok none) ++ [.ok (some apdu)] := by
  induction h with
  | last hp => simp [hp]
  | @more a a' f fs hp _ hrest ih =>
    have hpos := hrest.length_pos
    have hlen : (f :: fs).length - 1 = (fs.length - 1) + 1 := by
      rw [List.length_cons]
      omega
    rw [results_cons, hp, ih, hlen, List.replicate_succ, List.cons_append]

theorem after_eq (h : Delivers apdu a fs) : a.after fs = empty a.channel := by
  induction h with
  | last hp => simp [hp]
  | more hp hc _ ih => rw [after_cons, hp, ih, hc]

end Delivers

/-! ## One chunk -/

section Push

variable {a : Assembly} {frame n seq : Nat} {fill : Bool} {body : Bytes}

/-- The length in the header of a chunk. -/
def lengthOf (n seq : Nat) : Option UInt16 := if seq = 0 then some (UInt16.ofNat n) else none

theorem push_chunk (hseq : a.seq = UInt16.ofNat seq) (hs : seq < 65536) :
    let r := a.accept (lengthOf n seq) (body ++ filling frame fill (headerSize seq + body.length))
    a.push (chunk a.channel frame fill n body seq) = (.ok r.1, r.2) := by
  have hl : (ChunkHeader.make a.channel (UInt16.ofNat seq) (UInt16.ofNat n)).length = lengthOf n seq := by
    simp only [ChunkHeader.make, lengthOf, Apdu.ofNat_eq_zero_iff hs]
  rw [← hl]
  exact push_of_expects (Apdu.decode_chunk a.channel n) ⟨rfl, rfl, hseq.symm⟩

/-- A chunk that fills its frame and is not the last adds its body to what was there. -/
theorem push_part {b : Assembly} (hseq : a.seq = UInt16.ofNat seq) (hs : seq < 65536)
    (hb : a.opened (lengthOf n seq) = b) (hsized : b.Sized)
    (hfull : frame ≤ headerSize seq + body.length) (hlt : b.body.size + body.length < b.length) :
    a.push (chunk a.channel frame fill n body seq) =
      (.ok none, ⟨a.channel, UInt16.ofNat (seq + 1), b.length, (b.body.toList ++ body).toArray⟩) := by
  subst hb
  have hlen : ((a.opened (lengthOf n seq)).body.toList ++ body).length <
      (a.opened (lengthOf n seq)).length := by rwa [List.length_append, Array.length_toList]
  have htaken : (a.opened (lengthOf n seq)).taken body =
      (a.opened (lengthOf n seq)).body.toList ++ body := List.take_of_length_le (Nat.le_of_lt hlen)
  have hnext : a.seq + 1 = UInt16.ofNat (seq + 1) := by rw [hseq, UInt16.ofNat_add]; rfl
  rw [push_chunk hseq hs, filling_of_le hfull, List.append_nil, accept_eq hsized, htaken, hnext,
    if_pos hlen]

/-- A chunk whose body is all that was missing completes the APDU, whatever fills its frame. -/
theorem push_last {b : Assembly} (hseq : a.seq = UInt16.ofNat seq) (hs : seq < 65536)
    (hb : a.opened (lengthOf n seq) = b) (hsized : b.Sized)
    (heq : b.body.size + body.length = b.length) :
    a.push (chunk a.channel frame fill n body seq) =
      (.ok (some (b.body.toList ++ body)), empty a.channel) := by
  subst hb
  have hlen : ((a.opened (lengthOf n seq)).body.toList ++ body).length =
      (a.opened (lengthOf n seq)).length := by rwa [List.length_append, Array.length_toList]
  have htaken (zs : Bytes) : (a.opened (lengthOf n seq)).taken (body ++ zs) =
      (a.opened (lengthOf n seq)).body.toList ++ body := by
    rw [taken, ← List.append_assoc]
    exact List.take_left' hlen
  rw [push_chunk hseq hs, accept_eq hsized, htaken, if_neg (by omega)]

end Push

/-! ## All chunks -/

section Delivery

variable {channel : UInt16} {frame : Nat} {apdu : Bytes}

/-- What is left of an APDU is delivered by its remaining chunks. -/
theorem delivers_rest (fill : Bool) (hf : 7 ≤ frame) {got rest : Bytes} {seq : Nat}
    (hsplit : got ++ rest = apdu) (hne : rest ≠ []) (hseq : 0 < seq)
    (hcount : seq + rest.length ≤ 65536) :
    Delivers apdu ⟨channel, UInt16.ofNat seq, apdu.length, got.toArray⟩
      (((Bytes.pieces (frame - 5) rest).zipIdx seq).map fun x =>
        chunk channel frame fill apdu.length x.1 x.2) := by
  induction hn : rest.length using Nat.strongRecOn generalizing got rest seq with
  | ind n ih =>
    subst hn
    let a : Assembly := ⟨channel, UInt16.ofNat seq, apdu.length, got.toArray⟩
    have hpos : 0 < rest.length := List.length_pos_iff.2 hne
    have hlen : got.length + rest.length = apdu.length := by rw [← hsplit, List.length_append]
    have hheader : headerSize seq = 5 := if_neg (Nat.ne_of_gt hseq)
    have hbuffer : a.body.size = got.length := List.size_toArray
    have hopened : a.opened (lengthOf apdu.length seq) = a := by
      rw [lengthOf, if_neg (Nat.ne_of_gt hseq)]
      rfl
    have hsized : a.Sized := by
      show a.body.size ≤ apdu.length
      omega
    rcases Nat.lt_or_ge (frame - 5) rest.length with hlt | hle
    · -- the next chunk is full and another follows it
      have htake : (rest.take (frame - 5)).length = frame - 5 := by
        rw [List.length_take]
        omega
      have hdrop : (rest.drop (frame - 5)).length = rest.length - (frame - 5) := List.length_drop
      have hroom : a.body.size + (rest.take (frame - 5)).length < a.length := by
        show _ < apdu.length
        omega
      rw [Bytes.pieces_of_lt (by omega) hlt, List.zipIdx_cons, List.map_cons]
      dsimp only
      refine .more (push_part rfl (by omega) hopened hsized (by omega) hroom) rfl
        (ih _ (by omega) ?_ ?_ (Nat.succ_pos seq) (by omega) rfl)
      · rw [List.append_assoc, List.take_append_drop]
        exact hsplit
      · exact List.ne_nil_of_length_pos (by omega)
    · -- the next chunk is the last
      have hroom : a.body.size + rest.length = a.length := by
        show _ = apdu.length
        omega
      rw [Bytes.pieces_of_le hne hle]
      refine .last ((push_last rfl (by omega) hopened hsized hroom).trans ?_)
      show (Except.ok (some (got ++ rest)), _) = _
      rw [hsplit]

/-- The chunks of an APDU deliver it to any assembly that expects chunk 0. -/
theorem delivers_chunks (fill : Bool) (hf : 7 ≤ frame) (hl : apdu.length ≤ 65535) {a : Assembly}
    (ha : a.seq = 0) :
    Delivers apdu a
      ((bodies frame apdu).zipIdx.map fun x => chunk a.channel frame fill apdu.length x.1 x.2) := by
  let b : Assembly := ⟨a.channel, a.seq, apdu.length, #[]⟩
  have hheader : headerSize 0 = 7 := rfl
  have hopened : a.opened (lengthOf apdu.length 0) = b := by
    have hn : (UInt16.ofNat apdu.length).toNat = apdu.length := by
      rw [UInt16.toNat_ofNat']
      omega
    rw [lengthOf, if_pos rfl, opened, hn]
  have hsized : b.Sized := Nat.zero_le _
  rw [bodies, List.zipIdx_cons, List.map_cons]
  dsimp only
  rcases Nat.lt_or_ge (frame - 7) apdu.length with hlt | hle
  · have htake : (apdu.take (frame - 7)).length = frame - 7 := by
      rw [List.length_take]
      omega
    have hdrop : (apdu.drop (frame - 7)).length = apdu.length - (frame - 7) := List.length_drop
    have hroom : b.body.size + (apdu.take (frame - 7)).length < b.length := by
      show 0 + _ < apdu.length
      omega
    refine .more (push_part ha (by decide) hopened hsized (by omega) hroom) rfl
      (delivers_rest fill hf ?_ ?_ (Nat.succ_pos 0) (by omega))
    · exact List.take_append_drop (frame - 7) apdu
    · exact List.ne_nil_of_length_pos (by omega)
  · rw [List.take_of_length_le hle, List.drop_eq_nil_of_le hle, Bytes.pieces_nil]
    exact .last (push_last ha (by decide) hopened hsized (Nat.zero_add apdu.length))

end Delivery

end Assembly

namespace Apdu

/-- **The chunks of an APDU are put together to the APDU.** Let a frame have room for the largest header.
An APDU of at most 65535 bytes is cut into chunks: the `i`-th has the number `i`, no chunk is longer
than a frame, and each is as long as a frame if chunks are to be filled up. Pushed in order into an
assembly of the channel that expects number 0, they give nothing until the last gives the APDU, and
leave the assembly new. An assembly that has given an APDU or refused a chunk is new, and so expects
number 0. A longer APDU is refused. -/
theorem chunks_reassemble {frame : Nat} (room : 7 ≤ frame) (channel : UInt16) (fill : Bool)
    (apdu : Bytes) :
    (apdu.length ≤ 65535 → ∃ cs, chunks channel frame fill apdu = .ok cs ∧
      (∀ i c, cs[i]? = some c → ∃ h body, ChunkHeader.decode c = .ok (h, body) ∧
        h.channel = channel ∧ h.command = ChunkHeader.apduCommand ∧ h.seq.toNat = i ∧
        h.length = if i = 0 then some (UInt16.ofNat apdu.length) else none) ∧
      (∀ c ∈ cs, c.length ≤ frame ∧ (fill = true → c.length = frame)) ∧
      ∀ a : Assembly, a.channel = channel → a.seq = 0 →
        a.results cs = List.replicate (cs.length - 1) (.ok none) ++ [.ok (some apdu)] ∧
        a.after cs = Assembly.empty channel) ∧
    (∀ (fs : List Bytes) (f : Bytes), let a := (Assembly.empty channel).after fs
      (a.push f).1 = .ok none ∨ (a.push f).1 = .error (.wire .badLength) ∨
        (a.push f).2 = Assembly.empty channel) ∧
    (65535 < apdu.length → chunks channel frame fill apdu = .error (.tooLarge apdu.length)) := by
  refine ⟨fun hl => ⟨_, chunks_of_le channel room hl, fun i c hc => ?_, fun c hc => ?_,
    fun a ha hs => ?_⟩, fun fs f => ?_, chunks_of_lt channel⟩
  · exact header_of_chunks room (chunks_of_le channel room hl) hc
  · exact length_of_mem_chunks room (chunks_of_le channel room hl) hc
  · subst ha
    have hd := Assembly.delivers_chunks fill room hl hs
    exact ⟨hd.results_eq, hd.after_eq⟩
  · have hst := Assembly.stage_after channel fs
    have hr := (Assembly.push_rule hst.sized f).ended
    rwa [hst.channel_eq] at hr

/-- Frames with no room beside the first header, into an assembly that another message has left. -/
theorem chunks_reassemble_seven :
    let a : Assembly := ⟨0x0101, 0, 5, #[9]⟩
    7 ≤ 7 ∧ a.seq = 0 ∧ ∃ cs, chunks 0x0101 7 true [1, 2, 3] = .ok cs ∧ cs.length = 3 ∧
      a.results cs = [.ok none, .ok none, .ok (some [1, 2, 3])] ∧ a.after cs = Assembly.empty 0x0101 := by
  intro a
  obtain ⟨cs, hcs, -, -, hrun⟩ := (chunks_reassemble (Nat.le_refl 7) 0x0101 true [1, 2, 3]).1 (by decide)
  have hlen : cs.length = 3 := by
    have hk : (chunks 0x0101 7 true [1, 2, 3]).toOption.map List.length = some 3 := by decide +kernel
    rw [hcs] at hk
    exact Option.some.inj hk
  obtain ⟨hr, ha⟩ := hrun a rfl rfl
  exact ⟨Nat.le_refl 7, rfl, cs, hcs, hlen, by rw [hr, hlen]; rfl, ha⟩

end Apdu
end Seph
