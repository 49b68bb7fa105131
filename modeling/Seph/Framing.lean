import Seph.Bytes

/-!
# Taking values off a byte stream

A framing says where in a stream of bytes a value ends. From the bytes that have come it takes a
value, refuses them, or waits for more. All that can be taken is taken in order (`takeAll`); when no
more bytes will come, what is left over is the end of the stream (`readAll`).
-/

namespace Seph

/-- A way of cutting a byte stream into values. -/
structure Framing (ε α : Type) where
  /-- The value (or the reason for refusing it) at the start of the bytes, and the bytes behind it;
  `none` when more bytes are needed. -/
  take? : Bytes → Option (Except ε α × Bytes)
  /-- Whatever is taken is not empty. -/
  shorter : ∀ {bs r rest}, take? bs = some (r, rest) → rest.length < bs.length

namespace Framing

variable {ε α : Type}

/-- The values that can be taken off the bytes one after the other, the refusal that stops this, if
one does, and the bytes that are left. -/
def takeAll (f : Framing ε α) (bs : Bytes) : List α × Option ε × Bytes :=
  match _h : f.take? bs with
  | none => ([], none, bs)
  | some (.error e, rest) => ([], some e, rest)
  | some (.ok a, rest) =>
    let (as, e, left) := f.takeAll rest
    (a :: as, e, left)
termination_by bs.length
decreasing_by exact f.shorter _h

/-- Why there is no further value in a stream. -/
inductive Stop (ε : Type)
  /-- The stream has ended, perhaps within a value. -/
  | ended
  | refused (e : ε)
  deriving DecidableEq, Repr

/-- The values in a stream that ends behind the bytes, why there are no more, and the bytes that were
not read. A value that is cut off by the end of the stream is read in vain. -/
def readAll (f : Framing ε α) (bs : Bytes) : List α × Stop ε × Bytes :=
  match f.takeAll bs with
  | (as, none, _) => (as, .ended, [])
  | (as, some e, left) => (as, .refused e, left)

theorem takeAll_of_none {f : Framing ε α} {bs : Bytes} (h : f.take? bs = none) :
    f.takeAll bs = ([], none, bs) := by
  rw [takeAll]; split <;> simp_all

theorem takeAll_of_error {f : Framing ε α} {bs rest : Bytes} {e : ε}
    (h : f.take? bs = some (.error e, rest)) : f.takeAll bs = ([], some e, rest) := by
  rw [takeAll]; split <;> simp_all

theorem takeAll_of_ok {f : Framing ε α} {bs rest : Bytes} {a : α}
    (h : f.take? bs = some (.ok a, rest)) :
    f.takeAll bs = (a :: (f.takeAll rest).1, (f.takeAll rest).2) := by
  rw [takeAll]; split <;> simp_all

end Framing
end Seph
