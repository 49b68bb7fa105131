import Seph.Proofs.Link.Order
import Seph.Proofs.Usb.Payload

/-!
# Events for the firmware

All that goes to the firmware is an event of one of six kinds (`Packet.Known`), and each kind is as the
firmware expects it (`Packet.Proper`). Two of the kinds come from the link: transfers over USB and chunks
over NFC.

1. `Packet.Known.proper`: an event of a known kind is proper.
2. `Link.Takes.sound`, `Link.Sound.send`: a link holds transfers and chunks of the right size only,
   whatever comes of the firmware and however long the APDUs are.
-/

namespace Seph

namespace Packet

/-- The packets of a link: transfers of at most 64 bytes over USB, chunks of at most 140 over NFC. -/
inductive OfLink : Packet → Prop
  | transfer (t : Usb.Transfer) (h : t.data.length ≤ 64) : OfLink t.packet
  | chunk (bs : Bytes) (h : bs.length ≤ 140) : OfLink ⟨.capdu, bs⟩

/-- The kinds of event for the firmware of a device with a given screen. -/
inductive Known (panel : Panel) : Packet → Prop
  | button (mask : UInt8) : Known panel (buttonPush mask)
  | finger (x y : UInt16) (pressed : Bool) (hx : x.toNat < panel.width) (hy : y.toNat < panel.height) :
    Known panel (Packet.finger x y pressed)
  | processed : Known panel displayProcessed
  | tick : Known panel Packet.tick
  | link {p : Packet} (h : p.OfLink) : Known panel p

/-- A packet is an event that has an encoding. A finger is on the screen, the payload of a transfer is
one transfer of at most 64 bytes, and a chunk has at most 140 bytes. -/
structure Proper (panel : Panel) (p : Packet) : Prop where
  event : p.tag.isEvent = true
  encodes : ∃ bs, p.encode = .ok bs
  finger : p.tag = .finger → ∃ x y pressed, p = Packet.finger x y pressed ∧
    x.toNat < panel.width ∧ y.toNat < panel.height
  transfer : p.tag = .usbTransfer → ∃ t, Usb.Transfer.decode p.payload = .ok (t, []) ∧
    t.data.length ≤ 64
  chunk : p.tag = .capdu → p.payload.length ≤ 140

variable {panel : Panel} {p : Packet}

theorem encodes_of_le (h : p.payload.length ≤ 255) : ∃ bs, p.encode = .ok bs := by
  unfold encode
  rw [if_neg (by unfold maxPayload; omega)]
  exact ⟨_, rfl⟩

theorem OfLink.proper (h : p.OfLink) : p.Proper panel := by
  cases h with
  | transfer t ht =>
    refine ⟨rfl, encodes_of_le ?_, nofun, fun _ => ⟨t, ?_, ht⟩, nofun⟩
    · show t.data.length + 1 + 1 + 1 ≤ 255
      omega
    · exact Usb.Transfer.decode_payload (by omega)
  | chunk bs hb =>
    refine ⟨rfl, encodes_of_le ?_, nofun, nofun, fun _ => hb⟩
    show bs.length ≤ 255
    omega

theorem OfLink.tag_ne_buttonPush (h : p.OfLink) : p.tag ≠ .buttonPush := by
  cases h with
  | transfer | chunk => exact Tag.noConfusion

/-- **Each kind of event is as the firmware expects it.** -/
theorem Known.proper (h : p.Known panel) : p.Proper panel := by
  have short {q : Packet} (hq : q.payload.length ≤ 5) : ∃ bs, q.encode = .ok bs :=
    encodes_of_le (by omega)
  cases h with
  | button mask => exact ⟨rfl, short (Nat.le_add_left 1 4), nofun, nofun, nofun⟩
  | finger x y pressed hx hy =>
    exact ⟨rfl, short (Nat.le_refl 5), fun _ => ⟨x, y, pressed, rfl, hx, hy⟩, nofun, nofun⟩
  | processed | tick => exact ⟨rfl, short (Nat.zero_le 5), nofun, nofun, nofun⟩
  | link h => exact h.proper

end Packet

/-! ## What a link holds -/

theorem UsbLink.ofLink_of_mem_transfers {l : UsbLink} {apdu : Bytes} {ps : List Packet} {p : Packet}
    (h : l.transfers apdu = .ok ps) (hp : p ∈ ps) : p.OfLink := by
  obtain ⟨f, hl, rfl⟩ := exists_of_mem_transfers h hp
  exact .transfer _ (Nat.le_of_eq hl)

namespace Link

/-- A link holds packets of links only. -/
def Sound (l : Link) : Prop := ∀ p ∈ l.outbox ++ l.pending, p.OfLink

theorem sound_new (k : LinkKind) : (new k).Sound := by
  cases k <;> exact nofun

section Sound

variable {l : Link} {u : UsbLink}

theorem sound_usb_iff : (usb u).Sound ↔ (∀ p ∈ u.outbox, p.OfLink) ∧ ∀ p ∈ u.pending, p.OfLink :=
  List.forall_mem_append

theorem Sound.setOutbox (h : l.Sound) : (l.setOutbox []).Sound := by
  cases l with
  | usb u => exact sound_usb_iff.2 ⟨nofun, (sound_usb_iff.1 h).2⟩
  | nfc l => exact nofun

theorem Sound.post (h : (usb u).Sound) {ps : List Packet} (hps : ∀ p ∈ ps, p.OfLink) :
    (usb (u.post ps)).Sound := by
  obtain ⟨ho, hp⟩ := sound_usb_iff.1 h
  exact sound_usb_iff.2 ⟨List.forall_mem_append.2 ⟨ho, hps⟩, hp⟩

theorem Sound.post_one (h : (usb u).Sound) {p : Packet} (hp : p.OfLink) : (usb (u.post [p])).Sound :=
  h.post fun q hq => by rwa [List.mem_singleton.1 hq]

theorem Sound.configure (h : (usb u).Sound) (c : Usb.Config) : (usb (u.configure c)).Sound := by
  have setup (request : UInt8) : (UsbLink.setup request).OfLink := .transfer _ (Nat.le_add_left 8 56)
  cases c with
  | connect => exact h.post_one (setup Usb.setAddress)
  | address => exact h.post_one (setup Usb.setConfiguration)
  | disconnect => exact h
  | endpoints eps =>
    unfold UsbLink.configure
    dsimp only
    split
    · obtain ⟨ho, hp⟩ := sound_usb_iff.1 h
      exact sound_usb_iff.2 ⟨List.forall_mem_append.2 ⟨ho, hp⟩, nofun⟩
    · exact h

theorem Sound.config (h : l.Sound) (bs : Bytes) : (l.config bs).2.Sound := by
  cases l with
  | usb u =>
    simp only [Link.config, UsbLink.config]
    split
    · exact h.configure _
    · exact h
  | nfc l => exact h

theorem Sound.prepare (h : l.Sound) (bs : Bytes) : (l.prepare bs).2.Sound := by
  cases l with
  | usb u =>
    have acknowledged (ep : UInt8) : (usb (u.post [UsbLink.acknowledge ep])).Sound :=
      h.post_one (.transfer _ (Nat.zero_le 64))
    have hp := u.prepares bs
    simp only [Link.prepare]
    generalize u.prepare bs = r at hp ⊢
    cases hp with
    | overflow | refused | aside => exact h
    | elsewhere | frame => exact acknowledged _
  | nfc l => exact h

theorem Sound.respond (h : l.Sound) (bs : Bytes) : (l.respond bs).2.Sound := by
  cases l with
  | usb u => exact h
  | nfc l => exact h

/-- **Whatever comes of the firmware**, a link holds packets of links only. -/
theorem Takes.sound {l' : Link} {r : Except LinkError (Option Bytes)} (h : l.Sound)
    (ht : l.Takes r l') : l'.Sound := by
  cases ht with
  | respond bs => exact h.respond bs
  | config bs => exact h.config bs
  | prepare bs => exact h.prepare bs

/-- **So it does when an APDU is sent**, of whatever length. -/
theorem Sound.send (h : l.Sound) (apdu : Bytes) : (l.send apdu).2.Sound := by
  cases l with
  | usb u =>
    have hs := u.sends apdu
    simp only [Link.send]
    generalize u.send apdu = r at hs ⊢
    cases hs with
    | refused => exact h
    | posted ht => exact h.post fun p hp => UsbLink.ofLink_of_mem_transfers ht hp
    | kept ht =>
      obtain ⟨ho, hp⟩ := sound_usb_iff.1 h
      exact sound_usb_iff.2 ⟨ho, List.forall_mem_append.2 ⟨hp, fun p hm =>
        UsbLink.ofLink_of_mem_transfers ht hm⟩⟩
  | nfc l =>
    simp only [Link.send, NfcLink.send]
    cases hc : Apdu.chunks Apdu.nfcChannel Apdu.nfcFrame false apdu with
    | error e => exact h
    | ok cs =>
      have ho : ∀ p ∈ l.outbox ++ [], p.OfLink := h
      have hcs : ∀ p ∈ cs.map fun c => (⟨.capdu, c⟩ : Packet), p.OfLink := by
        intro p hp
        obtain ⟨c, hm, rfl⟩ := List.mem_map.1 hp
        exact .chunk c (Apdu.length_of_mem_chunks (by decide) hc hm).1
      rw [List.append_nil] at ho
      show ∀ p ∈ (l.outbox ++ _) ++ [], p.OfLink
      rw [List.append_nil]
      exact List.forall_mem_append.2 ⟨ho, hcs⟩

end Sound

end Link
end Seph
