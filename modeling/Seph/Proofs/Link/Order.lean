import Seph.Proofs.Apdu.Chunk
import Seph.Proofs.Engine.Handling

/-!
# The order of requests on a link

An APDU is a list of packets that depends on the kind of the link only (`LinkKind.packets`). A link
holds those that it has not given away in its outbox and, over USB, behind that among the transfers
that wait for the endpoints.

1. `UsbLink.prepares`, `UsbLink.sends`: all that can come of a preparation and of an APDU over USB.
2. `unsent_send`: an APDU that is sent goes behind all that the link holds.
3. `send_of_error`: a refused APDU changes nothing.
4. `Takes.keeps`: what the firmware says moves packets to the outbox, but neither loses one nor
   changes their order.
-/

namespace Seph

/-- The packet carries APDU data to the firmware, as a chunk over NFC or as a transfer over USB. -/
def Packet.carriesApdu : Packet → Bool
  | ⟨.capdu, _⟩ => true
  | ⟨.usbTransfer, bs⟩ => bs[1]? == some Usb.TransferKind.output.code
  | _ => false

/-! ## The packets of an APDU -/

namespace LinkKind

/-- The packets of an APDU over a kind of link. -/
def packets (k : LinkKind) (apdu : Bytes) : Except WireError (List Packet) :=
  match Link.new k with
  | .usb l => l.transfers apdu
  | .nfc _ => (Apdu.chunks Apdu.nfcChannel Apdu.nfcFrame false apdu).map fun cs =>
    cs.map fun c => ⟨.capdu, c⟩

/-- The packets of an APDU that is sent. -/
def request (k : LinkKind) (apdu : Bytes) : List Packet :=
  match k.packets apdu with
  | .ok ps => ps
  | .error _ => []

theorem request_of_packets {k : LinkKind} {apdu : Bytes} {ps : List Packet}
    (h : k.packets apdu = .ok ps) : k.request apdu = ps := by rw [request, h]

end LinkKind

theorem UsbFraming.length_of_mem_frames {f : UsbFraming} {apdu c : Bytes} {cs : List Bytes}
    (h : f.frames apdu = .ok cs) (hc : c ∈ cs) : c.length = Usb.maxTransfer := by
  cases f with
  | hid rx => exact (Apdu.length_of_mem_chunks (by decide) h hc).2 rfl
  | u2f =>
    cases h
    obtain ⟨b, -, rfl⟩ := List.mem_map.1 hc
    exact Bytes.length_resize _ b

theorem UsbLink.exists_of_mem_transfers {l : UsbLink} {apdu : Bytes} {ps : List Packet} {p : Packet}
    (h : l.transfers apdu = .ok ps) (hp : p ∈ ps) :
    ∃ f : Bytes, f.length = Usb.maxTransfer ∧
      p = Usb.Transfer.packet ⟨l.framing.epOut, .output, f⟩ := by
  unfold transfers at h
  cases hf : l.framing.frames apdu with
  | error e => rw [hf] at h; cases h
  | ok fs =>
    rw [hf] at h
    cases h
    obtain ⟨f, hm, rfl⟩ := List.mem_map.1 hp
    exact ⟨f, UsbFraming.length_of_mem_frames hf hm, rfl⟩

theorem UsbLink.of_mem_transfers {l : UsbLink} {apdu : Bytes} {ps : List Packet} {p : Packet}
    (h : l.transfers apdu = .ok ps) (hp : p ∈ ps) :
    p.carriesApdu = true ∧ p.payload.length ≤ Packet.maxPayload := by
  obtain ⟨f, hl, rfl⟩ := exists_of_mem_transfers h hp
  refine ⟨rfl, ?_⟩
  simp only [Usb.Transfer.packet, Usb.Transfer.payload, List.length_cons, Packet.maxPayload,
    Usb.maxTransfer] at hl ⊢
  omega

/-- The packets of an APDU carry APDU data, and each has an encoding. -/
theorem LinkKind.of_mem_packets {k : LinkKind} {apdu : Bytes} {ps : List Packet} {p : Packet}
    (h : k.packets apdu = .ok ps) (hp : p ∈ ps) :
    p.carriesApdu = true ∧ p.payload.length ≤ Packet.maxPayload := by
  cases k with
  | hid | u2f => exact UsbLink.of_mem_transfers h hp
  | nfc =>
    simp only [packets, Link.new] at h
    cases hc : Apdu.chunks Apdu.nfcChannel Apdu.nfcFrame false apdu with
    | error e => rw [hc] at h; cases h
    | ok cs =>
      rw [hc] at h
      cases h
      obtain ⟨c, hm, rfl⟩ := List.mem_map.1 hp
      have hl := (Apdu.length_of_mem_chunks (by decide) hc hm).1
      refine ⟨rfl, ?_⟩
      simp only [Packet.maxPayload, Apdu.nfcFrame] at hl ⊢
      omega

theorem LinkKind.of_mem_request {k : LinkKind} {apdu : Bytes} {p : Packet} (hp : p ∈ k.request apdu) :
    p.carriesApdu = true ∧ p.payload.length ≤ Packet.maxPayload := by
  unfold request at hp
  split at hp
  · rename_i ps h
    exact of_mem_packets h hp
  · cases hp

/-! ## What a USB link can do -/

namespace UsbLink

/-- What can come of a preparation. -/
inductive Prepares (l : UsbLink) (bs : Bytes) : Except LinkError (Option Bytes) × UsbLink → Prop
  /-- More data than an endpoint can hold. -/
  | overflow {n : Nat} (h : Usb.Preparation.decode bs = .error (.tooLarge n)) :
    Prepares l bs (.error (.overflow n), l)
  | refused {e : WireError} (h : Usb.Preparation.decode bs = .error e) (he : ∀ n, e ≠ .tooLarge n) :
    Prepares l bs (.error (.wire e), l)
  /-- No data from the device. -/
  | aside {p : Usb.Preparation} (h : Usb.Preparation.decode bs = .ok p) (hd : p.dir ≠ .input) :
    Prepares l bs (.ok none, l)
  /-- Data on an endpoint that no response comes from. -/
  | elsewhere {p : Usb.Preparation} (h : Usb.Preparation.decode bs = .ok p) (hd : p.dir = .input)
      (he : p.ep ≠ l.framing.epIn) : Prepares l bs (.ok none, l.post [acknowledge p.ep])
  /-- A frame of a response. -/
  | frame {p : Usb.Preparation} (h : Usb.Preparation.decode bs = .ok p) (hd : p.dir = .input)
      (he : p.ep = l.framing.epIn) :
    Prepares l bs ((l.framing.receive p.data).1,
      { l.post [acknowledge p.ep] with framing := (l.framing.receive p.data).2 })

theorem prepares (l : UsbLink) (bs : Bytes) : l.Prepares bs (l.prepare bs) := by
  unfold prepare
  split
  · rename_i n h
    exact .overflow h
  · rename_i e hn h
    exact .refused h hn
  · rename_i p h
    split
    · rename_i hd
      exact .aside h hd
    · rename_i hd
      dsimp only
      split
      · rename_i he
        exact .elsewhere h (Decidable.not_not.1 hd) he
      · rename_i he
        exact .frame h (Decidable.not_not.1 hd) (Decidable.not_not.1 he)

/-- What can come of an APDU that is to be sent. -/
inductive Sends (l : UsbLink) (apdu : Bytes) : Except LinkError Unit × UsbLink → Prop
  | refused {e : WireError} (h : l.transfers apdu = .error e) : Sends l apdu (.error (.wire e), l)
  /-- The endpoints are there and nothing waits. -/
  | posted {ps : List Packet} (h : l.transfers apdu = .ok ps)
      (hc : l.state = .configured ∧ l.ready = true ∧ l.pending = []) :
    Sends l apdu (.ok (), l.post ps)
  /-- The transfers wait, behind those that do. -/
  | kept {ps : List Packet} (h : l.transfers apdu = .ok ps)
      (hc : ¬ (l.state = .configured ∧ l.ready = true ∧ l.pending = [])) :
    Sends l apdu (.ok (), { l with pending := l.pending ++ ps })

theorem sends (l : UsbLink) (apdu : Bytes) : l.Sends apdu (l.send apdu) := by
  unfold send
  split
  · rename_i e h
    exact .refused h
  · rename_i ps h
    split
    · rename_i hc
      exact .posted h hc
    · rename_i hc
      exact .kept h hc

end UsbLink

/-! ## What a link holds -/

theorem UsbLink.framing_configure (l : UsbLink) (c : Usb.Config) :
    (l.configure c).framing = l.framing := by
  cases c with
  | connect | disconnect | address => rfl
  | endpoints eps =>
    simp only [UsbLink.configure]
    split <;> rfl

/-- The kind of link that cuts APDUs in this way. -/
def UsbFraming.kind : UsbFraming → LinkKind
  | hid _ => .hid
  | u2f => .u2f

namespace Link

def kind : Link → LinkKind
  | usb l => l.framing.kind
  | nfc _ => .nfc

/-- The packets that wait for the endpoints. -/
def pending : Link → List Packet
  | usb l => l.pending
  | nfc _ => []

/-- The packets with APDU data that the link has not given away, in order. -/
def unsent (l : Link) : List Packet := (l.outbox ++ l.pending).filter Packet.carriesApdu

@[simp] theorem kind_new (k : LinkKind) : (new k).kind = k := by cases k <;> rfl

@[simp] theorem unsent_new (k : LinkKind) : (new k).unsent = [] := by cases k <;> rfl

@[simp] theorem kind_setOutbox (l : Link) (ps : List Packet) : (l.setOutbox ps).kind = l.kind := by
  cases l <;> rfl

theorem unsent_setOutbox (l : Link) :
    l.outbox.filter Packet.carriesApdu ++ (l.setOutbox []).unsent = l.unsent := by
  have hp : (l.setOutbox []).pending = l.pending := by cases l <;> rfl
  have ho : (l.setOutbox []).outbox = [] := by cases l <;> rfl
  rw [unsent, unsent, hp, ho, List.nil_append, List.filter_append]

theorem transfers_eq (l : UsbLink) (apdu : Bytes) :
    l.transfers apdu = l.framing.kind.packets apdu := by
  obtain ⟨state, ready, _ | _, pending, outbox⟩ := l <;> rfl

theorem unsent_send {l : Link} {apdu : Bytes} {u : Unit} (h : (l.send apdu).1 = .ok u) :
    (l.send apdu).2.unsent = l.unsent ++ l.kind.request apdu ∧
      (l.send apdu).2.kind = l.kind ∧ ∃ ps, l.kind.packets apdu = .ok ps := by
  cases l with
  | usb l =>
    have carried {ps : List Packet} (hp : l.transfers apdu = .ok ps) :
        ps.filter Packet.carriesApdu = ps ∧ (usb l).kind.packets apdu = .ok ps :=
      ⟨List.filter_eq_self.2 fun p hm => (UsbLink.of_mem_transfers hp hm).1,
        (transfers_eq l apdu).symm.trans hp⟩
    have hs := l.sends apdu
    simp only [send] at h ⊢
    generalize l.send apdu = r at h hs ⊢
    cases hs with
    | refused => cases h
    | posted hp hc =>
      obtain ⟨hf, hk⟩ := carried hp
      refine ⟨?_, rfl, _, hk⟩
      simp [unsent, pending, outbox, UsbLink.post, hc.2.2, hf, LinkKind.request_of_packets hk]
    | kept hp =>
      obtain ⟨hf, hk⟩ := carried hp
      refine ⟨?_, rfl, _, hk⟩
      simp [unsent, pending, outbox, hf, LinkKind.request_of_packets hk]
  | nfc l =>
    have hk : (nfc l).kind.packets apdu =
      (Apdu.chunks Apdu.nfcChannel Apdu.nfcFrame false apdu).map fun cs =>
        cs.map fun c => ⟨.capdu, c⟩ := rfl
    simp only [send, NfcLink.send] at h ⊢
    cases hc : Apdu.chunks Apdu.nfcChannel Apdu.nfcFrame false apdu with
    | error e => rw [hc] at h; cases h
    | ok cs =>
      rw [hc] at hk
      have hf : (cs.map fun c => (⟨.capdu, c⟩ : Packet)).filter Packet.carriesApdu =
          cs.map fun c => ⟨.capdu, c⟩ :=
        List.filter_eq_self.2 fun p hm => (LinkKind.of_mem_packets hk hm).1
      rw [LinkKind.request_of_packets hk]
      refine ⟨?_, rfl, _, hk⟩
      simp only [unsent, pending, outbox, List.append_nil, List.filter_append, hf]

theorem send_of_error {l : Link} {apdu : Bytes} {e : LinkError} (h : (l.send apdu).1 = .error e) :
    (l.send apdu).2 = l := by
  cases l with
  | usb l =>
    have hs := l.sends apdu
    simp only [send] at h ⊢
    generalize l.send apdu = r at h hs ⊢
    cases hs with
    | refused => rfl
    | posted | kept => cases h
  | nfc l =>
    simp only [send, NfcLink.send] at h ⊢
    cases hc : Apdu.chunks Apdu.nfcChannel Apdu.nfcFrame false apdu with
    | error e => rfl
    | ok cs => rw [hc] at h; cases h

/-! ## What the firmware says -/

/-- The link has the kind of another and holds the same APDU data in the same order. -/
structure Keeps (l l' : Link) : Prop where
  unsent : l'.unsent = l.unsent
  kind : l'.kind = l.kind

theorem Keeps.refl (l : Link) : l.Keeps l := ⟨rfl, rfl⟩

/-- A packet without APDU data may go to the outbox at any time. -/
theorem keeps_post (l : UsbLink) {p : Packet} (hp : p.carriesApdu = false) :
    (usb l).Keeps (usb (l.post [p])) := by
  refine ⟨?_, rfl⟩
  simp [unsent, pending, outbox, UsbLink.post, hp]

theorem keeps_configure (l : UsbLink) (c : Usb.Config) : (usb l).Keeps (usb (l.configure c)) := by
  cases c with
  | connect => exact ⟨(keeps_post l (p := UsbLink.setup Usb.setAddress) rfl).unsent, rfl⟩
  | address => exact ⟨(keeps_post l (p := UsbLink.setup Usb.setConfiguration) rfl).unsent, rfl⟩
  | disconnect => exact ⟨rfl, rfl⟩
  | endpoints eps =>
    simp only [UsbLink.configure]
    split
    · refine ⟨?_, rfl⟩
      simp [unsent, pending, outbox, UsbLink.post]
    · exact .refl _

theorem keeps_config (l : Link) (bs : Bytes) : l.Keeps (l.config bs).2 := by
  cases l with
  | usb l =>
    simp only [config, UsbLink.config]
    split
    · exact keeps_configure l _
    · exact .refl _
  | nfc l => exact .refl _

theorem kind_receive (f : UsbFraming) (frame : Bytes) : (f.receive frame).2.kind = f.kind := by
  cases f <;> rfl

theorem keeps_prepare (l : Link) (bs : Bytes) : l.Keeps (l.prepare bs).2 := by
  cases l with
  | usb l =>
    have hp := l.prepares bs
    simp only [prepare]
    generalize l.prepare bs = r at hp ⊢
    cases hp with
    | overflow | refused | aside => exact .refl _
    | elsewhere => exact keeps_post l rfl
    | @frame p => exact ⟨(keeps_post l rfl).unsent, kind_receive l.framing p.data⟩
  | nfc l => exact .refl _

theorem keeps_respond (l : Link) (bs : Bytes) : l.Keeps (l.respond bs).2 := by
  cases l <;> exact ⟨rfl, rfl⟩

/-- **What the firmware says keeps the requests that a link holds.** -/
theorem Takes.keeps {l l' : Link} {r : Except LinkError (Option Bytes)} (h : l.Takes r l') :
    l.Keeps l' := by
  cases h with
  | respond bs => exact keeps_respond l bs
  | config bs => exact keeps_config l bs
  | prepare bs => exact keeps_prepare l bs

end Link
end Seph
