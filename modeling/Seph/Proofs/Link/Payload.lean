import Seph.Proofs.Apdu.Chunk
import Seph.Proofs.Usb.Payload

/-!
# What APDUs travel in

Over USB an APDU comes in preparations and goes out in transfers, and over both links it is cut into
chunks with a header each. A preparation is all of its bytes; a transfer and a header stand in front of
others. `Link.carriers_read_exactly`: each is read from the bytes that it is written as, and from no others.
-/

namespace Seph.Link

open Usb (Preparation Transfer)

/-- **Preparations, transfers and headers are read from the bytes that they are written as, and from no
others.** A preparation is read exactly from its own bytes, and has at most 64 bytes of data. A transfer,
with at most 255 bytes of data, is read and found to take `n` bytes exactly if it is written as the first
`n` bytes. So is the header of a chunk, which carries a length exactly if its sequence number is 0. All
transfers and preparations of so much data are written as some bytes. -/
theorem carriers_read_exactly :
    (∀ bs (p : Preparation), Preparation.decode bs = .ok p ↔ p.encode = .ok bs ∧ p.data.length ≤ 64) ∧
    (∀ bs (t : Transfer) n, Wire.counted Transfer.decode bs = .ok (t, n) ↔
      n ≤ bs.length ∧ t.encode = .ok (bs.take n) ∧ t.data.length ≤ 255) ∧
    (∀ bs (h : ChunkHeader) n, Wire.counted ChunkHeader.decode bs = .ok (h, n) ↔
      n ≤ bs.length ∧ h.encode = bs.take n ∧ (h.length.isSome ↔ h.seq = 0)) ∧
    (∀ p : Preparation, (∃ bs, p.encode = .ok bs) ↔ p.data.length ≤ 64) ∧
    (∀ t : Transfer, (∃ bs, t.encode = .ok bs) ↔ t.data.length ≤ 255) := by
  refine ⟨fun bs p => ?_, fun bs t n => ?_, fun bs h n => ChunkHeader.exact_decode.counted_eq_ok_iff,
    fun p => ?_, fun t => ?_⟩
  · rw [Preparation.decode_eq_ok_iff, Preparation.encode_eq_ok_iff]
    exact ⟨fun h => ⟨h, h.1⟩, And.left⟩
  · rw [Transfer.exact_decode.counted_eq_ok_iff, Transfer.encode_eq_ok_iff]
    exact and_congr_right fun _ => ⟨fun h => ⟨h, h.1⟩, And.left⟩
  · simp only [Preparation.encode_eq_ok_iff, exists_and_left, exists_eq, and_true]
  · simp only [Transfer.encode_eq_ok_iff, exists_and_left, exists_eq, and_true]

example : Preparation.decode [0x82, 0x20, 4, 1, 2] = .error .badLength := rfl

end Seph.Link
