import Mathlib.Data.List.Forall2
import Seph.Packet.Error
import Seph.Proofs.Bytes

/-!
# Decoders of bytes that go on

A decoder that leaves the bytes behind a value says how many bytes the value takes (`counted`). If it
is exact, these are the bytes that the value is written as: `Exact.counted_eq_ok_iff`. One that leaves
none takes them all (`whole`). Enumerations are read by their numbers (`find?_code_eq_some_iff`).
-/

namespace Seph

/-- What comes of two steps comes of the second, after a first that succeeds. -/
theorem exists_ok_of_bind {ε α β : Type} {x : Except ε α} {f : α → Except ε β} {b : β}
    (h : x >>= f = .ok b) : ∃ a, x = .ok a ∧ f a = .ok b := by
  cases x with
  | error e => cases h
  | ok a => exact ⟨a, rfl, h⟩

theorem ok_of_toOption {ε α : Type} {x : Except ε α} {a : α} (h : x.toOption = some a) : x = .ok a := by
  cases x with
  | error e => cases h
  | ok b => exact congrArg Except.ok (Option.some.inj h)

/-- A step that is run over a list succeeds if it does on every element, one result for each. -/
theorem mapM_eq_ok_iff {ε α β : Type} {f : α → Except ε β} {xs : List α} {ys : List β} :
    xs.mapM f = .ok ys ↔ List.Forall₂ (fun x y => f x = .ok y) xs ys := by
  induction xs generalizing ys with
  | nil =>
    rw [List.mapM_nil, List.forall₂_nil_left_iff]
    exact ⟨fun h => (Except.ok.inj h).symm, fun h => h ▸ rfl⟩
  | cons x xs ih =>
    rw [List.mapM_cons, List.forall₂_cons_left_iff]
    constructor
    · intro h
      obtain ⟨y, hy, h⟩ := exists_ok_of_bind h
      obtain ⟨rest, hrest, h⟩ := exists_ok_of_bind h
      exact ⟨y, rest, hy, ih.1 hrest, (Except.ok.inj h).symm⟩
    · rintro ⟨y, rest, hy, hrest, rfl⟩
      rw [hy, ih.2 hrest]
      rfl

namespace Wire

variable {α : Type}

/-- The value at the start of the bytes, and how many bytes it takes. -/
def counted (decode : Bytes → Except WireError (α × Bytes)) (bs : Bytes) : Except WireError (α × Nat) :=
  (decode bs).map fun (a, rest) => (a, bs.length - rest.length)

/-- The value that the bytes are, and their number, for a decoder that leaves none. -/
def whole (decode : Bytes → Except WireError α) (bs : Bytes) : Except WireError (α × Nat) :=
  (decode bs).map fun a => (a, bs.length)

theorem whole_eq_ok_iff {decode : Bytes → Except WireError α} {bs : Bytes} {a : α} {n : Nat} :
    whole decode bs = .ok (a, n) ↔ n = bs.length ∧ decode bs = .ok a := by
  unfold whole
  cases decode bs with
  | error e => simp [Except.map]
  | ok b =>
    rw [Except.map, Except.ok.injEq, Prod.mk.injEq, Except.ok.injEq, eq_comm (b := n)]
    exact and_comm

/-- The decoder finds a value exactly where bytes stand that the value is written as, and leaves what
follows them. -/
def Exact (decode : Bytes → Except WireError (α × Bytes)) (written : α → Bytes → Prop) : Prop :=
  ∀ bs a rest, decode bs = .ok (a, rest) ↔ ∃ enc, written a enc ∧ bs = enc ++ rest

section Exact

variable {decode : Bytes → Except WireError (α × Bytes)} {written : α → Bytes → Prop}
  {bs enc rest : Bytes} {a : α} {n : Nat}

theorem counted_eq_ok_iff :
    counted decode bs = .ok (a, n) ↔ ∃ rest, decode bs = .ok (a, rest) ∧ bs.length - rest.length = n := by
  unfold counted
  cases decode bs with
  | error e => simp [Except.map]
  | ok r =>
    obtain ⟨b, left⟩ := r
    simp only [Except.map, Except.ok.injEq, Prod.mk.injEq]
    constructor
    · rintro ⟨rfl, hn⟩
      exact ⟨left, ⟨rfl, rfl⟩, hn⟩
    · rintro ⟨rest, ⟨rfl, rfl⟩, hn⟩
      exact ⟨rfl, hn⟩

theorem Exact.decode_append (h : Exact decode written) (he : written a enc) (rest : Bytes) :
    decode (enc ++ rest) = .ok (a, rest) :=
  (h _ _ _).2 ⟨enc, he, rfl⟩

theorem Exact.counted_append (h : Exact decode written) (he : written a enc) (rest : Bytes) :
    counted decode (enc ++ rest) = .ok (a, enc.length) := by
  refine Wire.counted_eq_ok_iff.2 ⟨rest, h.decode_append he rest, ?_⟩
  rw [List.length_append, Nat.add_sub_cancel]

/-- **What an exact decoder takes is what the value is written as.** -/
theorem Exact.counted_eq_ok_iff (h : Exact decode written) :
    counted decode bs = .ok (a, n) ↔ n ≤ bs.length ∧ written a (bs.take n) := by
  rw [Wire.counted_eq_ok_iff]
  constructor
  · rintro ⟨rest, hd, rfl⟩
    obtain ⟨enc, he, rfl⟩ := (h _ _ _).1 hd
    rw [List.length_append, Nat.add_sub_cancel]
    exact ⟨Nat.le_add_right _ _, by rwa [List.take_left]⟩
  · rintro ⟨hn, he⟩
    refine ⟨bs.drop n, (h _ _ _).2 ⟨_, he, (List.take_append_drop n bs).symm⟩, ?_⟩
    rw [List.length_drop]
    omega

end Exact

/-- In a list of all values, whose numbers are distinct, a number finds the value that has it. -/
theorem find?_code_eq_some_iff {β : Type} [BEq β] [LawfulBEq β] {code : α → β} {all : List α}
    (hall : ∀ a, a ∈ all) (hinj : ∀ a b, code a = code b → a = b) {n : β} {a : α} :
    all.find? (fun a => code a == n) = some a ↔ code a = n := by
  have hcode {b : α} (h : all.find? (fun a => code a == n) = some b) : code b = n := by
    have := List.find?_some h
    exact eq_of_beq this
  constructor
  · exact hcode
  · rintro rfl
    obtain ⟨b, hb⟩ : ∃ b, all.find? (fun b => code b == code a) = some b :=
      Option.isSome_iff_exists.1 (List.find?_isSome.2 ⟨a, hall a, beq_self_eq_true (code a)⟩)
    rw [hb, hinj b a (hcode hb)]

end Wire
end Seph
