import Seph.Bytes

/-!
# Deflated data

Reading of the deflate format: blocks that are stored, or coded with a fixed or a transmitted pair
of prefix codes, where a pair of length and distance repeats earlier output. Bits are taken from
each byte from the lowest on. Every step takes at least one bit, so the number of bits bounds the
number of steps.
-/

namespace Seph.Inflate

/-- The bit at a place of the data. -/
def bit? (data : Array UInt8) (pos : Nat) : Option Nat :=
  data[pos / 8]?.map fun b => (b.toNat >>> (pos % 8)) % 2

/-- The number in the next `n` bits, lowest first, and the place after them. -/
def bits? (data : Array UInt8) : Nat → Nat → Option (Nat × Nat)
  | 0, pos => some (0, pos)
  | n + 1, pos => do
    let b ← bit? data pos
    let (r, after) ← bits? data n (pos + 1)
    return (b + 2 * r, after)

/-! ## Prefix codes -/

/-- The longest code of a symbol. -/
def maxBits : Nat := 15

/-- A canonical prefix code: the number of codes of each length from 1 on, and the symbols in the
order of their codes. -/
structure Code where
  counts : List Nat
  symbols : Array Nat
  deriving Repr

namespace Code

/-- The canonical code with the given lengths; length `0` stands for a symbol that is not used. The
lengths have to fill the code space exactly, unless there is at most one symbol. -/
def ofLengths? (lengths : List Nat) : Option Code :=
  let used := lengths.zipIdx.filter fun (n, _) => n != 0
  let group (n : Nat) := (used.filter fun (k, _) => k == n).map Prod.snd
  let groups := (List.range maxBits).map fun i => group (i + 1)
  let counts := groups.map List.length
  if filled counts = Nat.pow 2 maxBits ∨ used.length ≤ 1 then some ⟨counts, groups.flatten.toArray⟩
  else none
where
  /-- The part of the code space that is taken, in codes of the longest length. -/
  filled (counts : List Nat) : Nat :=
    counts.zipIdx.foldl (fun s (c, i) => s + c * Nat.pow 2 (maxBits - 1 - i)) 0

/-- Goes through the lengths: `code` is what was read so far, `first` the first code of the length
and `index` the place of its symbol. -/
def readFrom (c : Code) (data : Array UInt8) :
    List Nat → (code first index pos : Nat) → Option (Nat × Nat)
  | [], _, _, _, _ => none
  | n :: counts, code, first, index, pos => do
    let b ← bit? data pos
    let code := code + b
    if code < first + n then
      let s ← c.symbols[index + (code - first)]?
      return (s, pos + 1)
    else readFrom c data counts (code * 2) ((first + n) * 2) (index + n) (pos + 1)

/-- The next symbol, and the place after its code. -/
def read? (c : Code) (data : Array UInt8) (pos : Nat) : Option (Nat × Nat) :=
  c.readFrom data c.counts 0 0 0 pos

end Code

/-- The code lengths of the fixed code of literals and lengths. -/
def fixedLiterals : List Nat :=
  List.replicate 144 8 ++ List.replicate 112 9 ++ List.replicate 24 7 ++ List.replicate 8 8

/-- The fixed code of distances: five bits for each of the 30 symbols, in their order. -/
def fixedDistances : Code := ⟨[0, 0, 0, 0, 30], (List.range 30).toArray⟩

/-- The least length that each length symbol stands for, and the number of bits added to it. -/
def lengthTable : Array (Nat × Nat) :=
  #[(3, 0), (4, 0), (5, 0), (6, 0), (7, 0), (8, 0), (9, 0), (10, 0), (11, 1), (13, 1), (15, 1),
    (17, 1), (19, 2), (23, 2), (27, 2), (31, 2), (35, 3), (43, 3), (51, 3), (59, 3), (67, 4),
    (83, 4), (99, 4), (115, 4), (131, 5), (163, 5), (195, 5), (227, 5), (258, 0)]

/-- The least distance that each distance symbol stands for, and the number of bits added to it. -/
def distanceTable : Array (Nat × Nat) :=
  #[(1, 0), (2, 0), (3, 0), (4, 0), (5, 1), (7, 1), (9, 2), (13, 2), (17, 3), (25, 3), (33, 4),
    (49, 4), (65, 5), (97, 5), (129, 6), (193, 6), (257, 7), (385, 7), (513, 8), (769, 8),
    (1025, 9), (1537, 9), (2049, 10), (3073, 10), (4097, 11), (6145, 11), (8193, 12), (12289, 12),
    (16385, 13), (24577, 13)]

/-! ## Blocks -/

/-- Repeats `n` bytes from `distance` bytes back. -/
def repeatBack (out : Array UInt8) (distance : Nat) : Nat → Array UInt8
  | 0 => out
  | n + 1 => repeatBack (out.push (out.getD (out.size - distance) 0)) distance n

/-- The symbols of a coded block up to its end. -/
def readSymbols (data : Array UInt8) (literals distances : Code) :
    (fuel pos : Nat) → Array UInt8 → Option (Array UInt8 × Nat)
  | 0, _, _ => none
  | fuel + 1, pos, out => do
    let (s, pos) ← literals.read? data pos
    if s < 256 then readSymbols data literals distances fuel pos (out.push (UInt8.ofNat s))
    else if s = 256 then return (out, pos)
    else
      let (base, extra) ← lengthTable[s - 257]?
      let (more, pos) ← bits? data extra pos
      let (d, pos) ← distances.read? data pos
      let (dbase, dextra) ← distanceTable[d]?
      let (dmore, pos) ← bits? data dextra pos
      let distance := dbase + dmore
      if distance > out.size then none
      else readSymbols data literals distances fuel pos (repeatBack out distance (base + more))

/-- Copies `n` bytes from the byte at place `i`. -/
def copyBytes (data : Array UInt8) (i : Nat) : Nat → Array UInt8 → Option (Array UInt8)
  | 0, out => some out
  | n + 1, out => do copyBytes data (i + 1) n (out.push (← data[i]?))

/-- A stored block, which begins at the next whole byte: its length, the complement of its length,
and its bytes. -/
def readStored (data : Array UInt8) (pos : Nat) (out : Array UInt8) :
    Option (Array UInt8 × Nat) := do
  let start := (pos + 7) / 8 * 8
  let (n, pos) ← bits? data 16 start
  let (c, pos) ← bits? data 16 pos
  if n + c = 0xFFFF then
    let out ← copyBytes data (pos / 8) n out
    return (out, pos + 8 * n)
  else none

/-- The order in which the lengths of the length code are transmitted. -/
def lengthOrder : List Nat := [16, 17, 18, 0, 8, 7, 9, 6, 10, 5, 11, 4, 12, 3, 13, 2, 14, 1, 15]

/-- Code lengths of `total` symbols in the given code; three symbols repeat the last length or
zero. The lengths read so far are in reverse. -/
def readLengths (data : Array UInt8) (code : Code) (total : Nat) :
    (fuel pos : Nat) → List Nat → Option (List Nat × Nat)
  | 0, _, _ => none
  | fuel + 1, pos, acc => do
    if acc.length = total then return (acc.reverse, pos)
    else if acc.length > total then none
    else
      let (s, pos) ← code.read? data pos
      if s < 16 then readLengths data code total fuel pos (s :: acc)
      else if s = 16 then
        let last ← acc.head?
        let (n, pos) ← bits? data 2 pos
        readLengths data code total fuel pos (List.replicate (n + 3) last ++ acc)
      else
        let (width, least) := if s = 17 then (3, 3) else (7, 11)
        let (n, pos) ← bits? data width pos
        readLengths data code total fuel pos (List.replicate (n + least) 0 ++ acc)

/-- Three bits for each of the `n` lengths of the length code. -/
def readSmallLengths (data : Array UInt8) : Nat → Nat → Option (List Nat × Nat)
  | 0, pos => some ([], pos)
  | n + 1, pos => do
    let (k, pos) ← bits? data 3 pos
    let (ks, pos) ← readSmallLengths data n pos
    return (k :: ks, pos)

/-- The pair of codes that stands at the start of a block. -/
def readCodes (data : Array UInt8) (pos : Nat) : Option ((Code × Code) × Nat) := do
  let (nlit, pos) ← bits? data 5 pos
  let (ndist, pos) ← bits? data 5 pos
  let (nlen, pos) ← bits? data 4 pos
  let (small, pos) ← readSmallLengths data (nlen + 4) pos
  let placed := lengthOrder.zip small
  let code ← Code.ofLengths? ((List.range 19).map fun s => (placed.lookup s).getD 0)
  let (lengths, pos) ← readLengths data code (nlit + 257 + ndist + 1) (nlit + ndist + 259) pos []
  let literals ← Code.ofLengths? (lengths.take (nlit + 257))
  let distances ← Code.ofLengths? (lengths.drop (nlit + 257))
  return ((literals, distances), pos)

/-- The blocks up to the last one. -/
def readBlocks (data : Array UInt8) :
    (fuel pos : Nat) → Array UInt8 → Option (Array UInt8 × Nat)
  | 0, _, _ => none
  | fuel + 1, pos, out => do
    let (last, pos) ← bits? data 1 pos
    let (kind, pos) ← bits? data 2 pos
    let (out, pos) ←
      if kind = 0 then readStored data pos out
      else if kind = 1 then do
        let literals ← Code.ofLengths? fixedLiterals
        readSymbols data literals fixedDistances (data.size * 8) pos out
      else if kind = 2 then do
        let ((literals, distances), pos) ← readCodes data pos
        readSymbols data literals distances (data.size * 8) pos out
      else none
    if last = 1 then return (out, pos) else readBlocks data fuel pos out

/-- The bytes that deflated data at the start of `data` stands for, and the number of bytes that it
takes. -/
def inflate? (data : Array UInt8) : Option (Array UInt8 × Nat) := do
  let (out, pos) ← readBlocks data (data.size * 8 + 1) 0 #[]
  return (out, (pos + 7) / 8)

end Seph.Inflate
