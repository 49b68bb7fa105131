import Seph.Picture.Checksum
import Seph.Picture.Inflate
import Seph.Picture.Fault

/-!
# Gzip members

A member is a header, deflated data, and the check value and size of what the data stands for. The
data of an image file is a sequence of chunks, each a length in two bytes, low byte first, and a
member of at most that length.
-/

namespace Seph.Gzip

/-- The bytes after a text that ends with a zero byte. -/
def skipText (bs : Bytes) : Option Bytes :=
  match bs.dropWhile (· != 0) with
  | _ :: rest => some rest
  | [] => none

/-- The bytes after a field that begins with its length in two bytes, low byte first. -/
def skipField : Bytes → Option Bytes
  | a :: b :: rest =>
    let n := Word.ofLE [a, b]
    if rest.length < n then none else some (rest.drop n)
  | _ => none

/-- The bytes after a member's header: signature, method 8, flags, time, two bytes about its origin,
and the optional fields that the flags announce. A check of the header is verified; the three
highest flags are not allowed. -/
def skipHeader (member : Bytes) : Option Bytes :=
  match member with
  | 0x1F :: 0x8B :: 8 :: flags :: _ :: _ :: _ :: _ :: _ :: _ :: rest => do
    let has (i : Nat) : Bool := flags.toNat.testBit i
    if flags &&& 0xE0 != 0 then none
    else
      let rest ← if has 2 then skipField rest else some rest
      let rest ← if has 3 then skipText rest else some rest
      let rest ← if has 4 then skipText rest else some rest
      if has 1 then
        match rest with
        | a :: b :: after =>
          let header := member.take (member.length - rest.length)
          if Word.ofLE [a, b] = (Crc32.ofBytes header).toNat % 65536 then some after else none
        | _ => none
      else some rest
  | _ => none

/-- The bytes that the member at the start of `member` stands for; what follows it is ignored. -/
def expand? (member : Bytes) : Option Bytes := do
  let body := (← skipHeader member).toArray
  let (out, used) ← Inflate.inflate? body
  match body.toList.drop used with
  | a :: b :: c :: d :: e :: f :: g :: h :: _ =>
    if Word.ofLE [a, b, c, d] = (Crc32.ofArray out).toNat ∧
        Word.ofLE [e, f, g, h] = out.size % UInt32.size then some out.toList
    else none
  | _ => none

/-- The bytes that a sequence of chunks stands for, behind those of `acc` (which is in reverse). -/
def expandChunksFrom (acc : List Bytes) : Bytes → Except DrawError Bytes
  | [] => .ok acc.reverse.flatten
  | [_] => .error (.image .truncatedChunkHeader)
  | a :: b :: rest =>
    let n := Word.ofLE [a, b]
    if rest.length < n then .error (.image .truncatedChunk)
    else match expand? (rest.take n) with
      | some bs => expandChunksFrom (bs :: acc) (rest.drop n)
      | none => .error .gzip
termination_by bs => bs.length
decreasing_by simp only [List.length_drop, List.length_cons]; omega

/-- The bytes that a sequence of chunks stands for. -/
def expandChunks (bs : Bytes) : Except DrawError Bytes := expandChunksFrom [] bs

end Seph.Gzip
