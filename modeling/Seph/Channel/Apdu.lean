import Seph.Channel.Error
import Seph.Framing

/-!
# The APDU channel

A client sends requests, each behind its length in four bytes. A response goes back behind a length
that leaves out its last two bytes, the status word.
-/

namespace Seph.ApduChannel

def encodeRequest (apdu : Bytes) : Bytes := Word.toBE 4 apdu.length ++ apdu

/-- The request at the start of the bytes, and the bytes behind it. Too great a length is refused as
soon as it has come. -/
def takeRequest? : Bytes → Option (Except InputError Bytes × Bytes)
  | a :: b :: c :: d :: rest =>
    let n := Word.ofBE [a, b, c, d]
    if n > maxApdu then some (.error (.apduTooLong n), rest)
    else (Bytes.cut? n rest).map fun (apdu, rest) => (.ok apdu, rest)
  | _ => none

theorem takeRequest?_shorter {bs : Bytes} {r : Except InputError Bytes} {rest : Bytes}
    (h : takeRequest? bs = some (r, rest)) : rest.length < bs.length := by
  unfold takeRequest? at h
  split at h
  · dsimp only at h
    split at h
    · cases h
      simp only [List.length_cons]
      omega
    · obtain ⟨⟨apdu, left⟩, hc, he⟩ := Option.map_eq_some_iff.1 h
      cases he
      obtain ⟨rfl, -⟩ := Bytes.cut?_eq_some_iff.1 hc
      simp only [List.length_cons, List.length_append]
      omega
  · cases h

def requests : Framing InputError Bytes := ⟨takeRequest?, takeRequest?_shorter⟩

def encodeResponse (response : Bytes) : Bytes := Word.toBE 4 (response.length - 2) ++ response

/-- The response at the start of the bytes, as a client takes it, and the bytes behind it. -/
def takeResponse? : Bytes → Option (Bytes × Bytes)
  | a :: b :: c :: d :: rest => Bytes.cut? (Word.ofBE [a, b, c, d] + 2) rest
  | _ => none

end Seph.ApduChannel
