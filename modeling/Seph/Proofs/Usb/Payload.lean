import Seph.Proofs.Wire
import Seph.Usb.Payload

/-!
# USB payloads

Transfers and preparations are read exactly from the bytes that they are written as. So are configuration
messages of at most 255 endpoints; of more endpoints, the one byte of their number loses some.

1. `Transfer.exact_decode`, `Preparation.decode_eq_ok_iff`: transfers and preparations.
2. `Config.exact_decode`: configuration messages, and `Config.told_eq_self_iff`: which ones are told in
   full.
3. `Config.messages_read_back`: both ways for all messages and all bytes, with the number of bytes.
-/

namespace Seph.Usb

/-! ## Transfers and preparations -/

theorem TransferKind.ofCode?_eq_some_iff {b : UInt8} {k : TransferKind} : ofCode? b = some k ↔ k.code = b :=
  Wire.find?_code_eq_some_iff (fun k => by cases k <;> decide)
    fun a b => by cases a <;> cases b <;> decide

theorem Direction.ofCode?_eq_some_iff {b : UInt8} {d : Direction} : ofCode? b = some d ↔ d.code = b :=
  Wire.find?_code_eq_some_iff (fun d => by cases d <;> decide)
    fun a b => by cases a <;> cases b <;> decide

theorem toNat_size {data : Bytes} (h : data.length ≤ 255) : (UInt8.ofNat data.length).toNat = data.length :=
  UInt8.toNat_ofNat_of_lt' (Nat.lt_succ_of_le h)

namespace Transfer

variable {t : Transfer} {bs enc : Bytes}

theorem encode_eq_ok_iff : t.encode = .ok enc ↔ t.data.length ≤ 255 ∧ enc = t.payload := by
  unfold encode
  split
  · rename_i h
    exact iff_of_false nofun fun ht => Nat.not_lt_of_le ht.1 h
  · rename_i h
    rw [Except.ok.injEq]
    exact ⟨fun he => ⟨Nat.le_of_not_lt h, he.symm⟩, fun he => he.2.symm⟩

/-- A transfer is read back from its payload if its length fits the length byte. -/
theorem decode_append (h : t.data.length ≤ 255) (rest : Bytes) :
    decode (t.payload ++ rest) = .ok (t, rest) := by
  have hfit : ¬ (t.data ++ rest).length < t.data.length := by
    rw [List.length_append]
    omega
  show decode (t.ep :: t.kind.code :: UInt8.ofNat t.data.length :: (t.data ++ rest)) = _
  rw [decode, TransferKind.ofCode?_eq_some_iff.2 rfl, toNat_size h]
  dsimp only
  rw [if_neg hfit, List.take_left, List.drop_left]

theorem decode_payload (h : t.data.length ≤ 255) : decode t.payload = .ok (t, []) := by
  have := decode_append h []
  rwa [List.append_nil] at this

/-- **A transfer is read exactly where its bytes stand.** -/
theorem exact_decode : Wire.Exact decode fun t enc => t.encode = .ok enc := by
  intro bs t rest
  constructor
  · intro h
    unfold decode at h
    split at h
    · rename_i ep code size left
      split at h
      · cases h
      · rename_i kind hk
        split at h
        · cases h
        · rename_i hfit
          cases h
          have hsize : (left.take size.toNat).length = size.toNat := by
            rw [List.length_take]
            omega
          refine ⟨_, encode_eq_ok_iff.2 ⟨?_, rfl⟩, ?_⟩
          · show (left.take size.toNat).length ≤ 255
            have := size.toNat_lt
            omega
          · simp only [payload, TransferKind.ofCode?_eq_some_iff.1 hk, hsize, UInt8.ofNat_toNat,
              List.cons_append, List.take_append_drop]
    · cases h
  · rintro ⟨enc, he, rfl⟩
    obtain ⟨hl, rfl⟩ := encode_eq_ok_iff.1 he
    exact decode_append hl rest

end Transfer

namespace Preparation

variable {p : Preparation} {bs enc : Bytes}

theorem encode_eq_ok_iff : p.encode = .ok enc ↔
    p.data.length ≤ 64 ∧ enc = p.ep :: p.dir.code :: UInt8.ofNat p.data.length :: p.data := by
  unfold encode maxTransfer
  split
  · rename_i h
    exact iff_of_false nofun fun hp => Nat.not_lt_of_le hp.1 h
  · rename_i h
    rw [Except.ok.injEq]
    exact ⟨fun he => ⟨Nat.le_of_not_lt h, he.symm⟩, fun he => he.2.symm⟩

/-- **The bytes of a preparation are read as it, and no others.** -/
theorem decode_eq_ok_iff : decode bs = .ok p ↔ p.encode = .ok bs := by
  rw [encode_eq_ok_iff]
  constructor
  · intro h
    unfold decode maxTransfer at h
    split at h
    · split at h
      · cases h
      · rename_i dir hd
        split at h
        · cases h
        · rename_i hle
          split at h
          · cases h
          · rename_i heq
            have hl := Decidable.not_not.1 heq
            cases h
            refine ⟨hl ▸ Nat.le_of_not_lt hle, ?_⟩
            rw [Direction.ofCode?_eq_some_iff.1 hd, hl, UInt8.ofNat_toNat]
    · cases h
  · rintro ⟨hl, rfl⟩
    have hsize := toNat_size (Nat.le_trans hl (by decide : 64 ≤ 255))
    have hfit : ¬ p.data.length > maxTransfer := Nat.not_lt_of_le hl
    rw [decode, Direction.ofCode?_eq_some_iff.2 rfl, hsize]
    dsimp only
    rw [if_neg hfit, if_neg (Decidable.not_not.2 rfl)]

end Preparation

/-! ## Configuration messages -/

def Endpoint.bytes (e : Endpoint) : Bytes := [e.ep, e.kind, e.maxLen]

theorem length_flatMap_bytes (eps : List Endpoint) : (eps.flatMap Endpoint.bytes).length = 3 * eps.length := by
  induction eps with
  | nil => rfl
  | cons e eps ih =>
    rw [List.flatMap_cons, List.length_append, ih, List.length_cons]
    show 3 + 3 * eps.length = 3 * (eps.length + 1)
    omega

namespace Config

/-- Endpoints are read from their bytes, whatever follows them, and from nothing else. -/
theorem takeEndpoints_eq_some_iff {n : Nat} {bs rest : Bytes} {eps : List Endpoint} :
    takeEndpoints n bs = some (eps, rest) ↔
      eps.length = n ∧ bs = eps.flatMap Endpoint.bytes ++ rest := by
  constructor
  · intro h
    induction n generalizing bs eps with
    | zero =>
      cases h
      exact ⟨rfl, rfl⟩
    | succ n ih =>
      match bs with
      | [] | [_] | [_, _] => cases h
      | ep :: kind :: maxLen :: left =>
        obtain ⟨⟨others, after⟩, ht, he⟩ := Option.map_eq_some_iff.1 h
        cases he
        obtain ⟨hl, rfl⟩ := ih ht
        exact ⟨congrArg (· + 1) hl, rfl⟩
  · rintro ⟨rfl, rfl⟩
    induction eps with
    | nil => rfl
    | cons e eps ih =>
      show takeEndpoints (eps.length + 1)
        (e.ep :: e.kind :: e.maxLen :: (eps.flatMap Endpoint.bytes ++ rest)) = _
      rw [takeEndpoints, ih]
      rfl

/-- How many endpoints a message lists. -/
def count : Config → Nat
  | endpoints eps => eps.length
  | connect | disconnect | address => 0

def size : Config → Nat
  | endpoints eps => 2 + 3 * eps.length
  | connect | disconnect | address => 1

/-- A message as far as the one byte of the number of endpoints tells it. -/
def told : Config → Config
  | endpoints eps => endpoints (eps.take (eps.length % 256))
  | c => c

theorem encode_endpoints (eps : List Endpoint) :
    (endpoints eps).encode = 4 :: UInt8.ofNat eps.length :: eps.flatMap Endpoint.bytes := rfl

variable {c : Config}

theorem length_encode (c : Config) : c.encode.length = c.size := by
  cases c with
  | connect | disconnect | address => rfl
  | endpoints eps =>
    rw [encode_endpoints, List.length_cons, List.length_cons, length_flatMap_bytes, size]
    omega

theorem told_eq_self_iff : c.told = c ↔ c.count ≤ 255 := by
  cases c with
  | connect | disconnect | address => exact iff_of_true rfl (Nat.zero_le _)
  | endpoints eps =>
    rw [told, endpoints.injEq, count]
    constructor
    · intro h
      have hl := congrArg List.length h
      rw [List.length_take] at hl
      omega
    · intro h
      exact List.take_of_length_le (by omega)

theorem count_told_le (c : Config) : c.told.count ≤ 255 := by
  cases c with
  | connect | disconnect | address => exact Nat.zero_le _
  | endpoints eps =>
    rw [told, count, List.length_take]
    omega

theorem decode_endpoints (number : UInt8) (bs : Bytes) :
    decode (4 :: number :: bs) = match takeEndpoints number.toNat bs with
      | some (eps, rest) => .ok (endpoints eps, rest)
      | none => .error .badLength := rfl

theorem decode_cases {bs rest : Bytes} (h : decode bs = .ok (c, rest)) :
    c = connect ∧ bs = 1 :: rest ∨ c = disconnect ∧ bs = 2 :: rest ∨ c = address ∧ bs = 3 :: rest ∨
      ∃ number left eps, takeEndpoints number.toNat left = some (eps, rest) ∧ c = endpoints eps ∧
        bs = 4 :: number :: left := by
  match bs with
  | [] => cases h
  | kind :: left =>
    unfold decode at h
    dsimp only at h
    by_cases h₁ : kind = 1
    · subst h₁
      cases h
      exact .inl ⟨rfl, rfl⟩
    by_cases h₂ : kind = 2
    · subst h₂
      cases h
      exact .inr (.inl ⟨rfl, rfl⟩)
    by_cases h₃ : kind = 3
    · subst h₃
      cases h
      exact .inr (.inr (.inl ⟨rfl, rfl⟩))
    by_cases h₄ : kind = 4
    · subst h₄
      match left with
      | [] => cases h
      | number :: left =>
        change decode (4 :: number :: left) = _ at h
        rw [decode_endpoints] at h
        split at h
        · rename_i eps left ht
          cases h
          exact .inr (.inr (.inr ⟨number, _, eps, ht, rfl, rfl⟩))
        · cases h
    · rw [if_neg h₁, if_neg h₂, if_neg h₃, if_neg h₄] at h
      cases h

/-- **A message is read exactly where its bytes stand, if it lists at most 255 endpoints.** -/
theorem exact_decode : Wire.Exact decode fun c enc => c.encode = enc ∧ c.count ≤ 255 := by
  intro bs c rest
  constructor
  · intro h
    suffices c.count ≤ 255 ∧ bs = c.encode ++ rest from ⟨_, ⟨rfl, this.1⟩, this.2⟩
    obtain ⟨rfl, rfl⟩ | ⟨rfl, rfl⟩ | ⟨rfl, rfl⟩ | ⟨number, left, eps, ht, rfl, rfl⟩ := decode_cases h
    iterate 3 exact ⟨Nat.zero_le _, rfl⟩
    obtain ⟨hl, rfl⟩ := takeEndpoints_eq_some_iff.1 ht
    refine ⟨?_, ?_⟩
    · rw [count, hl]
      exact Nat.le_of_lt_succ number.toNat_lt
    · rw [encode_endpoints, hl, UInt8.ofNat_toNat]
      rfl
  · rintro ⟨_, ⟨rfl, hc⟩, rfl⟩
    cases c with
    | connect | disconnect | address => rfl
    | endpoints eps =>
      have hn : (UInt8.ofNat eps.length).toNat = eps.length :=
        UInt8.toNat_ofNat_of_lt' (Nat.lt_succ_of_le hc)
      rw [encode_endpoints, List.cons_append, List.cons_append, decode_endpoints, hn,
        takeEndpoints_eq_some_iff.2 ⟨rfl, rfl⟩]

/-- A message is what is told of it, followed by the endpoints that are not. -/
theorem exists_encode_eq (c : Config) : ∃ lost, c.encode = c.told.encode ++ lost := by
  cases c with
  | connect | disconnect | address => exact ⟨[], rfl⟩
  | endpoints eps =>
    refine ⟨(eps.drop (eps.length % 256)).flatMap Endpoint.bytes, ?_⟩
    have hn : UInt8.ofNat (eps.take (eps.length % 256)).length = UInt8.ofNat eps.length := by
      rw [← UInt8.toNat_inj, UInt8.toNat_ofNat', UInt8.toNat_ofNat', List.length_take]
      omega
    rw [told, encode_endpoints, encode_endpoints, hn, List.cons_append, List.cons_append,
      ← List.flatMap_append, List.take_append_drop]

theorem counted_encode_append (c : Config) (rest : Bytes) :
    Wire.counted decode (c.encode ++ rest) = .ok (c.told, c.told.size) := by
  obtain ⟨lost, hl⟩ := exists_encode_eq c
  rw [hl, List.append_assoc, exact_decode.counted_eq_ok_iff, ← length_encode]
  refine ⟨?_, ?_, count_told_le c⟩
  · rw [List.length_append]
    exact Nat.le_add_right _ _
  · rw [List.take_left]

/-- **Configuration messages are read back as far as one byte tells the number of their endpoints.** A
message takes `size` bytes. Whatever follows them, what is read is `told`, the message with as many of
its endpoints as its number of endpoints is modulo 256; so the message itself and all of its bytes are
read exactly if it lists at most 255 endpoints. And whatever bytes a message is read from, the bytes that
it takes are those that it is written as. -/
theorem messages_read_back (c : Config) :
    c.encode.length = c.size ∧
    (∀ rest, Wire.counted decode (c.encode ++ rest) = .ok (c.told, c.told.size)) ∧
    (∀ rest, Wire.counted decode (c.encode ++ rest) = .ok (c, c.size) ↔ c.count ≤ 255) ∧
    ∀ bs n, Wire.counted decode bs = .ok (c, n) ↔ n ≤ bs.length ∧ c.encode = bs.take n ∧ c.count ≤ 255 := by
  refine ⟨length_encode c, counted_encode_append c, fun rest => ?_,
    fun bs n => exact_decode.counted_eq_ok_iff⟩
  rw [counted_encode_append, Except.ok.injEq, Prod.mk.injEq, ← told_eq_self_iff]
  exact ⟨fun h => h.1, fun h => ⟨h, by rw [h]⟩⟩

/-- **Of 256 endpoints none is told.** The message takes 770 bytes, of which two are read, as a message
that lists no endpoint. -/
theorem endpoints_untold :
    let c := endpoints (List.replicate 256 ⟨0x82, 3, 64⟩)
    c.encode.length = 770 ∧ Wire.counted decode c.encode = .ok (endpoints [], 2) ∧
      Wire.counted decode c.encode ≠ .ok (c, 770) := by
  intro c
  have hsize : c.size = 770 := by rw [size, List.length_replicate]
  have htold : c.told = endpoints [] := by rw [told, List.length_replicate, Nat.mod_self, List.take_zero]
  have hr := counted_encode_append c []
  rw [List.append_nil, htold] at hr
  refine ⟨(length_encode c).trans hsize, hr, fun h => ?_⟩
  rw [hr, Except.ok.injEq, Prod.mk.injEq] at h
  exact absurd h.2 (by decide)

end Config
end Seph.Usb
