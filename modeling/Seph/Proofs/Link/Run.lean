import Seph.Proofs.Link.Order
import Seph.Proofs.Lists

/-!
# Runs of a link

A run is a list of operations on a link in the order in which they take effect; each leaves an event
behind. The frames of an APDU depend on the kind of the link only (`LinkKind.frames`).

1. `unsent_step`: what an operation lets in goes behind all that the link holds, and what it gives
   away comes from the front.
2. `frames_framed`: what the frames of each kind of link are.
3. `requests_in_order`: along a run, what was polled and what the link still holds are the frames of
   the APDUs that were sent.
-/

namespace Seph

/-! ## Frames of an APDU -/

namespace LinkKind

/-- The frames of an APDU over a kind of link. -/
def frames (k : LinkKind) (apdu : Bytes) : Except WireError (List Bytes) :=
  match k with
  | hid => Apdu.chunks Apdu.hidChannel Apdu.hidFrame true apdu
  | u2f => UsbFraming.u2f.frames apdu
  | nfc => Apdu.chunks Apdu.nfcChannel Apdu.nfcFrame false apdu

/-- The packet that carries a frame to the firmware. -/
def carry (k : LinkKind) (frame : Bytes) : Packet :=
  match k with
  | hid => ⟨.usbTransfer, 0x02 :: 0x04 :: UInt8.ofNat frame.length :: frame⟩
  | u2f => ⟨.usbTransfer, 0x01 :: 0x04 :: UInt8.ofNat frame.length :: frame⟩
  | nfc => ⟨.capdu, frame⟩

/-- What the frames of an APDU are: numbered chunks filled up to 64 bytes; the bare bytes, filled up
with zero bytes to 64 at a time, in one frame at least; numbered chunks of at most 140 bytes. -/
def Framed : LinkKind → Bytes → List Bytes → Prop
  | hid, apdu, fs =>
    Apdu.chunks Apdu.hidChannel 64 true apdu = .ok fs ∧ ∀ f ∈ fs, f.length = 64
  | u2f, apdu, fs =>
    fs.length = max 1 ((apdu.length + 63) / 64) ∧ (∀ f ∈ fs, f.length = 64) ∧
      fs.flatten = apdu ++ List.replicate (64 * fs.length - apdu.length) 0
  | nfc, apdu, fs =>
    Apdu.chunks Apdu.nfcChannel 140 false apdu = .ok fs ∧ ∀ f ∈ fs, f.length ≤ 140

section Frames

variable {k : LinkKind} {apdu : Bytes} {fs : List Bytes}

theorem packets_eq (k : LinkKind) (apdu : Bytes) :
    k.packets apdu = (k.frames apdu).map fun fs => fs.map k.carry := by cases k <;> rfl

theorem request_eq (h : k.frames apdu = .ok fs) : k.request apdu = fs.map k.carry :=
  request_of_packets (by rw [packets_eq, h]; rfl)

/-- An APDU has frames when its length can be announced, or need not be. -/
theorem frames_isOk_iff : (∃ fs, k.frames apdu = .ok fs) ↔ apdu.length ≤ 65535 ∨ k = u2f := by
  cases k with
  | hid =>
    refine ⟨fun ⟨fs, h⟩ => .inl (Apdu.le_of_chunks h), fun h => ?_⟩
    exact ⟨_, Apdu.chunks_of_le _ (by decide) (h.resolve_right LinkKind.noConfusion)⟩
  | u2f => exact ⟨fun _ => .inr rfl, fun _ => ⟨_, rfl⟩⟩
  | nfc =>
    refine ⟨fun ⟨fs, h⟩ => .inl (Apdu.le_of_chunks h), fun h => ?_⟩
    exact ⟨_, Apdu.chunks_of_le _ (by decide) (h.resolve_right LinkKind.noConfusion)⟩

theorem frames_framed (h : k.frames apdu = .ok fs) : k.Framed apdu fs := by
  cases k with
  | hid => exact ⟨h, fun f hm => (Apdu.length_of_mem_chunks (by decide) h hm).2 rfl⟩
  | nfc => exact ⟨h, fun f hm => (Apdu.length_of_mem_chunks (by decide) h hm).1⟩
  | u2f =>
    cases h
    refine ⟨?_, fun f hm => ?_, ?_⟩
    · cases apdu with
      | nil => rfl
      | cons b bs =>
        show ((Bytes.pieces 64 (b :: bs)).map _).length = _
        rw [List.length_map, Bytes.length_pieces (by decide), List.length_cons]
        omega
    · obtain ⟨piece, -, rfl⟩ := List.mem_map.1 hm
      exact Bytes.length_resize _ _
    · cases apdu with
      | nil => rfl
      | cons b bs =>
        show ((Bytes.pieces 64 (b :: bs)).map (Bytes.resize 64)).flatten =
          _ ++ List.replicate (64 * ((Bytes.pieces 64 (b :: bs)).map _).length - _) 0
        rw [List.length_map]
        exact Bytes.flatten_map_resize_pieces (by decide) _

end Frames

end LinkKind

namespace Link

/-! ## Operations and events -/

/-- An operation on a link. -/
inductive Op
  | config (bs : Bytes)
  | prepare (bs : Bytes)
  | respond (bs : Bytes)
  | send (apdu : Bytes)
  | poll
  deriving DecidableEq, Repr

/-- What an operation gives back. -/
inductive Result
  | done (r : Except LinkError Unit)
  | received (r : Except LinkError (Option Bytes))
  | polled (p : Option Packet)

/-- An operation and what it gave back. -/
structure Event where
  op : Op
  result : Result

def step (l : Link) : Op → Result × Link
  | .config bs => (.done (l.config bs).1, (l.config bs).2)
  | .prepare bs => (.received (l.prepare bs).1, (l.prepare bs).2)
  | .respond bs => (.received (l.respond bs).1, (l.respond bs).2)
  | .send apdu => (.done (l.send apdu).1, (l.send apdu).2)
  | .poll => (.polled l.poll.1, l.poll.2)

def after (l : Link) : List Op → Link
  | [] => l
  | o :: os => after (l.step o).2 os

def trace (l : Link) : List Op → List Event
  | [] => []
  | o :: os => ⟨o, (l.step o).1⟩ :: trace (l.step o).2 os

@[simp] theorem after_nil (l : Link) : l.after [] = l := rfl

@[simp] theorem trace_nil (l : Link) : l.trace [] = [] := rfl

@[simp] theorem after_cons (l : Link) (o : Op) (os : List Op) :
    l.after (o :: os) = (l.step o).2.after os := rfl

@[simp] theorem trace_cons (l : Link) (o : Op) (os : List Op) :
    l.trace (o :: os) = ⟨o, (l.step o).1⟩ :: (l.step o).2.trace os := rfl

/-- The packet that was polled, if one was. -/
def Event.polled? : Event → Option Packet
  | ⟨.poll, .polled p⟩ => p
  | _ => none

def Event.sent? : Event → Option Bytes
  | ⟨.send apdu, .done (.ok _)⟩ => some apdu
  | _ => none

/-! ## Sending -/

/-- An APDU is sent if it has packets, whatever the state of the link. -/
theorem send_fst (l : Link) (apdu : Bytes) :
    (l.send apdu).1 = match l.kind.packets apdu with
      | .ok _ => .ok ()
      | .error e => .error (.wire e) := by
  cases l with
  | usb l =>
    have hs := l.sends apdu
    rw [kind, ← transfers_eq]
    simp only [send]
    generalize l.send apdu = r at hs ⊢
    cases hs with
    | refused h | posted h | kept h => rw [h]
  | nfc l =>
    simp only [send, NfcLink.send, kind, LinkKind.packets_eq, LinkKind.frames]
    cases Apdu.chunks Apdu.nfcChannel Apdu.nfcFrame false apdu <;> rfl

theorem send_fst_eq_ok_iff (l : Link) (apdu : Bytes) :
    (l.send apdu).1 = .ok () ↔ apdu.length ≤ 65535 ∨ l.kind = .u2f := by
  rw [send_fst, ← LinkKind.frames_isOk_iff, LinkKind.packets_eq]
  cases l.kind.frames apdu with
  | error e =>
    constructor
    · intro h
      cases h
    · rintro ⟨fs, h⟩
      cases h
  | ok fs =>
    constructor
    · intro _
      exact ⟨fs, rfl⟩
    · intro _
      rfl

theorem frames_of_send {l : Link} {apdu : Bytes} {u : Unit} (h : (l.send apdu).1 = .ok u) :
    ∃ fs, l.kind.frames apdu = .ok fs :=
  LinkKind.frames_isOk_iff.2 ((send_fst_eq_ok_iff l apdu).1 h)

/-! ## One operation -/

/-- What waits for the endpoints are transfers with APDU data. -/
def PendingCarries (l : Link) : Prop := l.pending.filter Packet.carriesApdu = l.pending

theorem pendingCarries_new (k : LinkKind) : (new k).PendingCarries := by cases k <;> rfl

theorem PendingCarries.config {l : Link} (h : l.PendingCarries) (bs : Bytes) :
    (l.config bs).2.PendingCarries := by
  cases l with
  | nfc l => rfl
  | usb l =>
    simp only [Link.config, UsbLink.config]
    split
    · rename_i c _ _
      cases c with
      | connect | address | disconnect => exact h
      | endpoints eps =>
        simp only [UsbLink.configure]
        split
        · rfl
        · exact h
    · exact h

theorem PendingCarries.prepare {l : Link} (h : l.PendingCarries) (bs : Bytes) :
    (l.prepare bs).2.PendingCarries := by
  cases l with
  | nfc l => rfl
  | usb l =>
    have hp := l.prepares bs
    simp only [Link.prepare]
    generalize l.prepare bs = r at hp ⊢
    cases hp with
    | overflow | refused | aside | elsewhere | frame => exact h

theorem PendingCarries.send {l : Link} (h : l.PendingCarries) (apdu : Bytes) :
    (l.send apdu).2.PendingCarries := by
  cases l with
  | nfc l => exact (rfl : PendingCarries (nfc (l.send apdu).2))
  | usb l =>
    have hs := l.sends apdu
    simp only [Link.send]
    generalize l.send apdu = r at hs ⊢
    cases hs with
    | refused | posted => exact h
    | @kept ps hp =>
      show (l.pending ++ ps).filter _ = l.pending ++ ps
      rw [List.filter_append, show l.pending.filter _ = _ from h]
      refine congrArg (l.pending ++ ·) (List.filter_eq_self.2 fun p hm => ?_)
      exact (UsbLink.of_mem_transfers hp hm).1

theorem PendingCarries.step {l : Link} (h : l.PendingCarries) (o : Op) :
    (l.step o).2.PendingCarries := by
  cases o with
  | config bs => exact h.config bs
  | prepare bs => exact h.prepare bs
  | respond bs => cases l <;> exact h
  | send apdu => exact h.send apdu
  | poll =>
    simp only [Link.step, poll]
    split
    · cases l <;> exact h
    · exact h

theorem unsent_poll (l : Link) :
    l.poll.1.toList.filter Packet.carriesApdu ++ l.poll.2.unsent = l.unsent ∧
      l.poll.2.kind = l.kind := by
  unfold poll
  split
  · rename_i p ps ho
    have hp : (l.setOutbox ps).pending = l.pending := by cases l <;> rfl
    have ho' : (l.setOutbox ps).outbox = ps := by cases l <;> rfl
    refine ⟨?_, kind_setOutbox l ps⟩
    rw [unsent, unsent, hp, ho', ho, Option.toList_some, ← List.filter_append]
    rfl
  · exact ⟨rfl, rfl⟩

/-- **What an operation gives away comes from the front, what it lets in goes to the back.** -/
theorem unsent_step (l : Link) (o : Op) :
    (Event.polled? ⟨o, (l.step o).1⟩).toList.filter Packet.carriesApdu ++ (l.step o).2.unsent =
      l.unsent ++ (Event.sent? ⟨o, (l.step o).1⟩).toList.flatMap l.kind.request ∧
    (l.step o).2.kind = l.kind := by
  cases o with
  | config bs =>
    obtain ⟨hu, hk⟩ := keeps_config l bs
    exact ⟨hu.trans (List.append_nil _).symm, hk⟩
  | prepare bs =>
    obtain ⟨hu, hk⟩ := keeps_prepare l bs
    exact ⟨hu.trans (List.append_nil _).symm, hk⟩
  | respond bs =>
    obtain ⟨hu, hk⟩ := keeps_respond l bs
    exact ⟨hu.trans (List.append_nil _).symm, hk⟩
  | send apdu =>
    cases hs : (l.send apdu).1 with
    | error e =>
      have hl := send_of_error hs
      simp [step, hs, hl, Event.polled?, Event.sent?]
    | ok u =>
      obtain ⟨hu, hk, -⟩ := unsent_send hs
      simp [step, hs, hu, hk, Event.polled?, Event.sent?]
  | poll =>
    obtain ⟨hu, hk⟩ := unsent_poll l
    exact ⟨hu.trans (List.append_nil _).symm, hk⟩

/-! ## Runs -/

theorem kind_after (l : Link) (os : List Op) : (l.after os).kind = l.kind := by
  induction os generalizing l with
  | nil => rfl
  | cons o os ih => exact (ih _).trans (unsent_step l o).2

theorem PendingCarries.after {l : Link} (h : l.PendingCarries) (os : List Op) :
    (l.after os).PendingCarries := by
  induction os generalizing l with
  | nil => exact h
  | cons o os ih => exact ih (h.step o)

theorem unsent_after (l : Link) (os : List Op) :
    ((l.trace os).filterMap Event.polled?).filter Packet.carriesApdu ++ (l.after os).unsent =
      l.unsent ++ ((l.trace os).filterMap Event.sent?).flatMap l.kind.request := by
  induction os generalizing l with
  | nil => simp
  | cons o os ih =>
    obtain ⟨hs, hk⟩ := unsent_step l o
    rw [trace_cons, after_cons, filterMap_cons_toList, filterMap_cons_toList, List.filter_append,
      List.append_assoc, ih, hk, ← List.append_assoc, hs, List.append_assoc, List.flatMap_append]

theorem frames_of_sent {l : Link} {os : List Op} {apdu : Bytes}
    (h : apdu ∈ (l.trace os).filterMap Event.sent?) : ∃ fs, l.kind.frames apdu = .ok fs := by
  induction os generalizing l with
  | nil => cases h
  | cons o os ih =>
    rw [trace_cons, filterMap_cons_toList, List.mem_append] at h
    rcases h with h | h
    · cases o with
      | send bs =>
        cases hs : (l.send bs).1 with
        | error e => simp [step, hs, Event.sent?] at h
        | ok u =>
          have hb : apdu = bs := by simpa [step, hs, Event.sent?] using h
          rw [hb]
          exact frames_of_send hs
      | config | prepare | respond | poll => cases h
    · rw [← (unsent_step l o).2]
      exact ih h

/-- **Requests leave a link in the order in which they were sent.** In every run of a new link, with any
configuration messages, preparations and responses of the firmware at any point, the packets with APDU
data that were polled, those in the outbox behind them, and those that wait for the endpoints behind
those, are the frames of the APDUs that were sent, in order and each once. An APDU is sent if its length
can be announced or need not be; one that is refused leaves the link as it was. -/
theorem requests_in_order (k : LinkKind) (os : List Op) :
    let l := (new k).after os
    let es := (new k).trace os
    (es.filterMap Event.polled?).filter Packet.carriesApdu ++
        l.outbox.filter Packet.carriesApdu ++ l.pending =
      (es.filterMap Event.sent?).flatMap k.request ∧
    (∀ apdu ∈ es.filterMap Event.sent?, ∃ fs, k.Framed apdu fs ∧ k.request apdu = fs.map k.carry) ∧
    ∀ apdu, ((l.send apdu).1 = .ok () ↔ apdu.length ≤ 65535 ∨ k = .u2f) ∧
      ∀ e, (l.send apdu).1 = .error e → (l.send apdu).2 = l := by
  intro l es
  have hkind : l.kind = k := (kind_after (new k) os).trans (kind_new k)
  refine ⟨?_, fun apdu hm => ?_, fun apdu => ⟨?_, fun e => send_of_error⟩⟩
  · have hu := unsent_after (new k) os
    have hp : l.PendingCarries := (pendingCarries_new k).after os
    rw [unsent_new, List.nil_append, kind_new, unsent, List.filter_append, hp,
      ← List.append_assoc] at hu
    exact hu
  · obtain ⟨fs, hfs⟩ := frames_of_sent hm
    rw [kind_new] at hfs
    exact ⟨fs, LinkKind.frames_framed hfs, LinkKind.request_eq hfs⟩
  · rw [send_fst_eq_ok_iff, hkind]

/-- The first APDU waits for the endpoints; the second comes after a new connection and waits again. -/
example :
    let l := (new .u2f).after
      [.send [], .config [1], .config [3], .config [4, 1, 1, 3, 64], .config [1], .send []]
    (l.outbox.map Packet.carriesApdu = [false, false, true, false]) ∧ l.pending.length = 1 := by decide

end Link
end Seph
