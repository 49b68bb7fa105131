import Seph.Framing
import Seph.Packet.Basic

/-!
# The packet stream

Packets follow each other in a byte stream without anything between them. A header with an unknown
tag is refused as soon as its three bytes have come.
-/

namespace Seph.Packet

/-- The packet at the start of the bytes, and the bytes behind it. -/
def take? : Bytes → Option (Except WireError Packet × Bytes)
  | t :: a :: b :: rest =>
    match Tag.ofCode t with
    | .error e => some (.error e, rest)
    | .ok tag =>
      (Bytes.cut? (Word.ofBE16 a b).toNat rest).map fun (payload, rest) => (.ok ⟨tag, payload⟩, rest)
  | _ => none

theorem take?_shorter {bs : Bytes} {r : Except WireError Packet} {rest : Bytes}
    (h : take? bs = some (r, rest)) : rest.length < bs.length := by
  unfold take? at h
  split at h
  · split at h
    · cases h
      simp only [List.length_cons]
      omega
    · obtain ⟨⟨payload, left⟩, hc, he⟩ := Option.map_eq_some_iff.1 h
      cases he
      obtain ⟨rfl, -⟩ := Bytes.cut?_eq_some_iff.1 hc
      simp only [List.length_cons, List.length_append]
      omega
  · cases h

def stream : Framing WireError Packet := ⟨take?, take?_shorter⟩

end Seph.Packet
