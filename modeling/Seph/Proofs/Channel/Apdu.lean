import Seph.Channel.Apdu
import Seph.Proofs.Packet.Stream

/-!
# The APDU channel as a stream

Requests and responses go over the channel one behind the other, and each begins with a length.

1. `readAll_requests`: requests that are not too long are read back, and then the stream has ended;
   `readAll_requests_tooLong`: a greater length is refused behind its four bytes.
2. `takeAll_responses_iff`: a client that adds two to each length reads responses back exactly if each
   of them has the two bytes of a status word.
-/

namespace Seph.ApduChannel

open Framing (readAll_eq_iff reads_flatMap takeAll_eq_iff)

/-! ## Lengths -/

theorem exists_length {n : Nat} (h : n < 2 ^ 32) :
    ∃ a b c d, Word.toBE 4 n = [a, b, c, d] ∧ Word.ofBE [a, b, c, d] = n := by
  obtain ⟨a, b, c, d, hl⟩ : ∃ a b c d, Word.toBE 4 n = [a, b, c, d] := ⟨_, _, _, _, rfl⟩
  refine ⟨a, b, c, d, hl, ?_⟩
  rw [← hl, Word.ofBE_toBE]
  exact Nat.mod_eq_of_lt h

/-! ## Requests -/

theorem takeRequest?_encode {apdu : Bytes} (h : apdu.length ≤ maxApdu) (rest : Bytes) :
    takeRequest? (encodeRequest apdu ++ rest) = some (.ok apdu, rest) := by
  have hlt : apdu.length < 2 ^ 32 := by
    unfold maxApdu at h
    omega
  obtain ⟨a, b, c, d, hl, hn⟩ := exists_length hlt
  have hc : Bytes.cut? apdu.length (apdu ++ rest) = some (apdu, rest) :=
    Bytes.cut?_eq_some_iff.2 ⟨rfl, rfl⟩
  rw [encodeRequest, hl, List.append_assoc]
  show takeRequest? (a :: b :: c :: d :: (apdu ++ rest)) = _
  rw [takeRequest?, hn]
  dsimp only
  rw [if_neg (Nat.not_lt.2 h), hc]
  rfl

/-- Too great a length is refused, and nothing behind it is read. -/
theorem takeRequest?_tooLong {n : Nat} (h : maxApdu < n) (hn : n < 2 ^ 32) (rest : Bytes) :
    takeRequest? (Word.toBE 4 n ++ rest) = some (.error (.apduTooLong n), rest) := by
  obtain ⟨a, b, c, d, hl, hw⟩ := exists_length hn
  rw [hl]
  show takeRequest? (a :: b :: c :: d :: rest) = _
  rw [takeRequest?, hw]
  exact if_pos h

section Requests

variable {apdus : List Bytes}

theorem reads_requests (h : ∀ a ∈ apdus, a.length ≤ maxApdu) (rest : Bytes) :
    requests.Reads (apdus.flatMap encodeRequest ++ rest) apdus rest :=
  reads_flatMap rest fun a ha => takeRequest?_encode (h a ha)

/-- **Requests are read back**, and then the stream has ended. -/
theorem readAll_requests (h : ∀ a ∈ apdus, a.length ≤ maxApdu) :
    requests.readAll (apdus.flatMap encodeRequest) = (apdus, .ended, []) := by
  have hr := reads_requests h []
  rw [List.append_nil] at hr
  exact readAll_eq_iff.2 ⟨[], hr, rfl, rfl⟩

/-- **Too great a length is refused** behind the requests before it, and what follows it is left. -/
theorem readAll_requests_tooLong (h : ∀ a ∈ apdus, a.length ≤ maxApdu) {n : Nat} (hn : maxApdu < n)
    (hn' : n < 2 ^ 32) (rest : Bytes) :
    requests.readAll (apdus.flatMap encodeRequest ++ (Word.toBE 4 n ++ rest)) =
      (apdus, .refused (.apduTooLong n), rest) :=
  readAll_eq_iff.2 ⟨_, reads_requests h _, takeRequest?_tooLong hn hn' rest⟩

end Requests

/-! ## Responses -/

theorem takeResponse?_shorter {bs response rest : Bytes} (h : takeResponse? bs = some (response, rest)) :
    rest.length < bs.length := by
  unfold takeResponse? at h
  split at h
  · obtain ⟨rfl, -⟩ := Bytes.cut?_eq_some_iff.1 h
    simp only [List.length_cons, List.length_append]
    omega
  · cases h

/-- The stream of responses, as a client takes it. -/
def responses : Framing Empty Bytes where
  take? bs := (takeResponse? bs).map fun (response, rest) => (.ok response, rest)
  shorter h := by
    obtain ⟨⟨response, rest⟩, ht, he⟩ := Option.map_eq_some_iff.1 h
    cases he
    exact takeResponse?_shorter ht

/-- What a client takes has the two bytes that it adds to the length. -/
theorem length_of_takeResponse? {bs response rest : Bytes}
    (h : takeResponse? bs = some (response, rest)) : 2 ≤ response.length := by
  unfold takeResponse? at h
  split at h
  · obtain ⟨-, hl⟩ := Bytes.cut?_eq_some_iff.1 h
    omega
  · cases h

theorem takeResponse?_encode {response : Bytes} (h : 2 ≤ response.length)
    (hlt : response.length < 2 ^ 32) (rest : Bytes) :
    takeResponse? (encodeResponse response ++ rest) = some (response, rest) := by
  obtain ⟨a, b, c, d, hl, hn⟩ := exists_length (n := response.length - 2) (by omega)
  rw [encodeResponse, hl, List.append_assoc]
  show takeResponse? (a :: b :: c :: d :: (response ++ rest)) = _
  rw [takeResponse?, hn]
  exact Bytes.cut?_eq_some_iff.2 ⟨rfl, (Nat.sub_add_cancel h).symm⟩

/-- **Responses are read back exactly if each of them has a status word.** -/
theorem takeAll_responses_iff {rs : List Bytes} (hlt : ∀ r ∈ rs, r.length < 2 ^ 32) :
    responses.takeAll (rs.flatMap encodeResponse) = (rs, none, []) ↔ ∀ r ∈ rs, 2 ≤ r.length := by
  constructor
  · intro h
    refine (takeAll_eq_iff.1 h).1.forall_mem fun bs r mid first => ?_
    obtain ⟨⟨response, rest⟩, ht, he⟩ := Option.map_eq_some_iff.1 first
    cases he
    exact length_of_takeResponse? ht
  · intro h
    have hr : responses.Reads (rs.flatMap encodeResponse ++ []) rs [] :=
      reads_flatMap [] fun r hr after => by
        show (takeResponse? _).map _ = _
        rw [takeResponse?_encode (h r hr) (hlt r hr)]
        rfl
    rw [List.append_nil] at hr
    exact takeAll_eq_iff.2 ⟨hr, rfl⟩

end Seph.ApduChannel
