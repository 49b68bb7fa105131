import Seph.Apdu.Chunk
import Seph.Link.Error

/-!
# Assembly of APDUs

The chunks of an APDU are put together again in the order of their sequence numbers. A chunk of
another channel or command, or out of order, is refused and the assembly begins anew; a frame that
is no chunk is refused and changes nothing.
-/

namespace Seph

/-- An APDU of which some chunks have come. -/
structure Assembly where
  channel : UInt16
  /-- The sequence number of the next chunk. -/
  seq : UInt16
  /-- The length of the whole APDU. -/
  length : Nat
  body : Array UInt8
  deriving DecidableEq, Repr

namespace Assembly

/-- No chunk has come. -/
def empty (channel : UInt16) : Assembly := ⟨channel, 0, 0, #[]⟩

/-- The chunk that is expected, with its length and body: chunk 0 begins a new APDU. What is beyond
the announced length is filling and is left out. -/
def accept (a : Assembly) (length : Option UInt16) (body : Bytes) : Option Bytes × Assembly :=
  let a : Assembly := match length with
    | some n => { a with length := n.toNat, body := #[] }
    | none => a
  let { channel, seq, length, body := got } := a
  let got := got ++ (body.take (length - got.size)).toArray
  if got.size < length then (none, ⟨channel, seq + 1, length, got⟩)
  else (some got.toList, empty channel)

/-- Takes a frame; gives the APDU when it is complete. -/
def push (a : Assembly) (frame : Bytes) : Except LinkError (Option Bytes) × Assembly :=
  match ChunkHeader.decode frame with
  | .error e => (.error (.wire e), a)
  | .ok (h, body) =>
    if h.channel ≠ a.channel ∨ h.command ≠ ChunkHeader.apduCommand then
      (.error (.channel h.channel h.command), empty a.channel)
    else if h.seq ≠ a.seq then (.error (.sequence a.seq h.seq), empty a.channel)
    else
      let (apdu, a) := a.accept h.length body
      (.ok apdu, a)

end Assembly
end Seph
