import Seph.Bytes
import Seph.Picture.Fault

/-!
# Run-length codes

Pixel values in run-length code, for four bits and for one bit to the pixel.

The four-bit code is a sequence of code words (`Code`): a run of up to 64 white pixels, a run of up
to eight pixels of one value, or a pack of three to six single values. The bytes spell the code
words one after the other, and decoding is reading code words and putting down the pixels of each.

In the one-bit code each byte is a run of zeros followed by a run of ones.
-/

namespace Seph.RunLength

/-! ## Four bits to the pixel -/

/-- The value of a white pixel. -/
def whiteValue : UInt8 := 15

/-- A code word. -/
inductive Code
  /-- `n` white pixels, from 1 to 64. -/
  | white (n : Nat)
  /-- `n` pixels of one value, from 1 to 8. -/
  | run (n : Nat) (v : UInt8)
  /-- Single pixels, from 3 to 6. -/
  | singles (vs : Bytes)
  deriving DecidableEq, Repr

namespace Code

def pixels : Code → Bytes
  | white n => List.replicate n whiteValue
  | run n v => List.replicate n v
  | singles vs => vs

/-- The values packed two to a byte, the first in the high half; a last one alone leaves the low
half zero. -/
def packPairs : Bytes → Bytes
  | a :: b :: rest => ((a &&& 15) * 16 + (b &&& 15)) :: packPairs rest
  | [a] => [(a &&& 15) * 16]
  | [] => []

def bytes : Code → Bytes
  | white n => [0xC0 + UInt8.ofNat (n - 1)]
  | run n v => [UInt8.ofNat (n - 1) * 16 + (v &&& 15)]
  | singles vs =>
    match vs with
    | [] => []
    | v :: rest => (0x80 + UInt8.ofNat (vs.length - 3) * 16 + (v &&& 15)) :: packPairs rest

/-- The two halves of a byte, the high one first. -/
def halves (b : UInt8) : Bytes := [b >>> 4, b &&& 15]

/-- The code word at the start of the bytes and the bytes after it; none where a pack of singles is
cut off. -/
def read (b : UInt8) (rest : Bytes) : Option (Code × Bytes) :=
  if b ≥ 0xC0 then some (white ((b.toNat &&& 63) + 1), rest)
  else if b ≥ 0x80 then
    let others := (b.toNat >>> 4 &&& 3) + 2
    let size := (others + 1) / 2
    if rest.length < size then none
    else some (singles ((b &&& 15) :: ((rest.take size).flatMap halves).take others),
      rest.drop size)
  else some (run ((b.toNat >>> 4) + 1) (b &&& 15), rest)

theorem length_of_read {b : UInt8} {rest after : Bytes} {c : Code}
    (h : read b rest = some (c, after)) : after.length ≤ rest.length := by
  unfold read at h
  split at h
  · cases h; exact Nat.le_refl _
  · split at h
    · simp only at h
      split at h
      · cases h
      · cases h; simp
    · cases h; exact Nat.le_refl _

/-- The code words that the bytes spell, behind those in `acc` (which is in reverse). -/
def readAllFrom (acc : List Code) : Bytes → Option (List Code)
  | [] => some acc.reverse
  | b :: rest =>
    match h : read b rest with
    | none => none
    | some (c, after) =>
      have := length_of_read h
      readAllFrom (c :: acc) after
termination_by bs => bs.length

/-- The code words that the bytes spell. -/
def readAll (bs : Bytes) : Option (List Code) := readAllFrom [] bs

end Code

/-- The pixels that the bytes spell. -/
def decode4 (bs : Bytes) : Except DrawError Bytes :=
  match Code.readAll bs with
  | some codes => .ok (codes.flatMap Code.pixels)
  | none => .error (.image .truncatedSingles)

/-- How often the first pixel stands at the start, counted up to `most`. -/
def runLength (most : Nat) (p : UInt8) (rest : Bytes) : Nat :=
  1 + ((rest.take (most - 1)).takeWhile (· == p)).length

/-- How many pixels at the start, up to `most`, neither are white nor begin a run. -/
def singleCount : Nat → Bytes → Nat
  | 0, _ => 0
  | _, [] => 0
  | k + 1, p :: rest =>
    if p != whiteValue && rest.head? != some p then 1 + singleCount k rest else 0

/-- The code word for the start of the pixels and the number of pixels that it covers. White pixels
go into a white run, equal neighbours into a run, and at least three pixels that begin no run into a
pack. -/
def nextCode (p : UInt8) (rest : Bytes) : Code × Nat :=
  let v := p &&& 15
  if v = whiteValue then
    let n := runLength 64 p rest
    (.white n, n)
  else
    let n := runLength 8 p rest
    if 2 ≤ n then (.run n v, n)
    else
      let n := singleCount 6 (p :: rest)
      if 3 ≤ n then (.singles ((p :: rest).take n), n) else (.run 1 v, 1)

theorem nextCode_pos (p : UInt8) (rest : Bytes) : 0 < (nextCode p rest).2 := by
  by_cases h₁ : p &&& 15 = whiteValue
  · simp only [nextCode, h₁, if_true, runLength]; omega
  · by_cases h₂ : 2 ≤ runLength 8 p rest
    · simp only [nextCode, h₁, h₂, if_true, if_false]; omega
    · by_cases h₃ : 3 ≤ singleCount 6 (p :: rest)
      · simp only [nextCode, h₁, h₂, h₃, if_true, if_false]; omega
      · simp only [nextCode, h₁, h₂, h₃, if_false]; omega

/-- The code words for the pixels, behind those in `acc` (which is in reverse). -/
def codesFrom (acc : List Code) : Bytes → List Code
  | [] => acc.reverse
  | p :: rest =>
    let r := nextCode p rest
    codesFrom (r.1 :: acc) ((p :: rest).drop r.2)
termination_by px => px.length
decreasing_by
  have := nextCode_pos p rest
  simp only [List.length_drop, List.length_cons]
  omega

/-- The bytes that spell the pixels, each pixel taken modulo 16. -/
def encode4 (px : Bytes) : Bytes := (codesFrom [] px).flatMap Code.bytes

/-! ## One bit to the pixel -/

/-- The longest run that half a byte can say. -/
def maxRun : Nat := 15

/-- The pixels that the bytes spell: as many zeros as the high half says, then as many ones as the
low half says. -/
def decode1 (bs : Bytes) : Bytes :=
  bs.flatMap fun b =>
    List.replicate (b.toNat / 16) 0 ++ List.replicate (b.toNat % 16) 1

/-- The lengths of the zeros and of the ones at the start of the pixels. No ones are counted behind
a longest run of zeros that goes on. -/
def nextRuns (px : Bytes) : Nat × Nat :=
  let zeros := ((px.take maxRun).takeWhile (· == 0)).length
  let rest := px.drop zeros
  if zeros = maxRun ∧ rest.head? = some 0 then (zeros, 0)
  else (zeros, ((rest.take maxRun).takeWhile (· != 0)).length)

theorem nextRuns_pos (p : UInt8) (rest : Bytes) :
    0 < (nextRuns (p :: rest)).1 + (nextRuns (p :: rest)).2 := by
  by_cases hp : p = 0
  · simp only [nextRuns, maxRun, List.take_succ_cons, hp, beq_self_eq_true,
      List.takeWhile_cons_of_pos, List.length_cons]
    split <;> simp only <;> omega
  · have h0 : (((p :: rest).take maxRun).takeWhile (· == 0)).length = 0 := by
      simp [maxRun, hp]
    have h1 : 0 < (((p :: rest).take maxRun).takeWhile (· != 0)).length := by
      simp [maxRun, hp]
    simp only [nextRuns, h0, List.drop_zero]
    split
    · rename_i h
      simp [maxRun] at h
    · simpa using h1

/-- The bytes that spell the pixels, behind those in `acc` (which is in reverse). -/
def encode1From (acc : Bytes) : Bytes → Bytes
  | [] => acc.reverse
  | p :: rest =>
    let r := nextRuns (p :: rest)
    encode1From (UInt8.ofNat (r.1 * 16 + r.2) :: acc) ((p :: rest).drop (r.1 + r.2))
termination_by px => px.length
decreasing_by
  have := nextRuns_pos p rest
  simp only [List.length_drop, List.length_cons]
  omega

/-- The bytes that spell the pixels, where every pixel that is not zero counts as one. -/
def encode1 (px : Bytes) : Bytes := encode1From [] px

end Seph.RunLength
