import Seph.Proofs.Link.Reception
import Seph.Proofs.Usb.Payload

/-!
# The lengths of responses

A response is a whole packet or transfer, or is put together from chunks. So it has at most as many bytes
as two bytes can tell (`length_respond`, `length_prepare`), as long as no more of it is waited for, which
no operation of a link changes (`Takes.fits`, `Fits.send`).
-/

namespace Seph

open Apdu (maxLength)

namespace Assembly

/-- No more is waited for than a chunk header can announce. -/
structure Fits (a : Assembly) : Prop where
  sized : a.Sized
  length : a.length ≤ maxLength

theorem fits_empty (channel : UInt16) : (empty channel).Fits := ⟨Nat.le_refl 0, Nat.zero_le _⟩

theorem Fits.opened {a : Assembly} (h : a.Fits) (length : Option UInt16) : (a.opened length).Fits := by
  refine ⟨h.sized.opened length, ?_⟩
  cases length with
  | none => exact h.length
  | some n => exact Nat.le_of_lt_succ n.toNat_lt

/-- **An APDU that is given is no longer than a chunk header can announce.** -/
theorem Fits.push {a : Assembly} (h : a.Fits) (f : Bytes) :
    (a.push f).2.Fits ∧ ∀ apdu, (a.push f).1 = .ok (some apdu) → apdu.length ≤ maxLength := by
  have hr := push_rule h.sized f
  generalize (a.push f).1 = r at hr ⊢
  generalize (a.push f).2 = a' at hr ⊢
  cases hr with
  | short => exact ⟨h, nofun⟩
  | foreign | disorder => exact ⟨fits_empty _, nofun⟩
  | part => exact ⟨⟨length_taken_le _ _, (h.opened _).length⟩, nofun⟩
  | whole _ _ full =>
    refine ⟨fits_empty _, fun apdu he => ?_⟩
    cases he
    exact full ▸ (h.opened _).length

end Assembly

/-- No more of a response is waited for than a chunk header can announce. -/
def UsbFraming.Fits : UsbFraming → Prop
  | hid rx => rx.Fits
  | u2f => True

namespace Link

/-- No more of a response is waited for than a chunk header can announce. -/
def Fits : Link → Prop
  | usb l => l.framing.Fits
  | nfc l => l.rx.Fits

theorem fits_new (k : LinkKind) : (new k).Fits := by
  cases k with
  | hid | nfc => exact Assembly.fits_empty _
  | u2f => trivial

section Fits

variable {l l' : Link} {bs response : Bytes}

theorem Fits.setOutbox (h : l.Fits) (ps : List Packet) : (l.setOutbox ps).Fits := by
  cases l <;> exact h

theorem Fits.config (h : l.Fits) (bs : Bytes) : (l.config bs).2.Fits := by
  cases l with
  | usb u =>
    show (u.config bs).2.framing.Fits
    rw [framing_config]
    exact h
  | nfc l => exact h

theorem Fits.send (h : l.Fits) (apdu : Bytes) : (l.send apdu).2.Fits := by
  cases l with
  | usb u =>
    show (u.send apdu).2.framing.Fits
    rw [framing_send]
    exact h
  | nfc l =>
    simp only [Link.send, NfcLink.send]
    split <;> exact h

theorem Fits.respond (h : l.Fits) (bs : Bytes) : (l.respond bs).2.Fits := by
  cases l with
  | usb u => exact h
  | nfc l => exact (Assembly.Fits.push h bs).1

theorem length_respond (h : l.Fits) (hbs : bs.length ≤ maxLength)
    (hr : (l.respond bs).1 = .ok (some response)) : response.length ≤ maxLength := by
  cases l with
  | usb u =>
    cases hr
    exact hbs
  | nfc l => exact (Assembly.Fits.push h bs).2 response hr

theorem UsbFraming.Fits.receive {f : UsbFraming} (h : f.Fits) (frame : Bytes) :
    (f.receive frame).2.Fits := by
  cases f with
  | hid rx => exact (Assembly.Fits.push h frame).1
  | u2f => trivial

theorem length_receive {f : UsbFraming} {frame : Bytes} (h : f.Fits) (hf : frame.length ≤ maxLength)
    (hr : (f.receive frame).1 = .ok (some response)) : response.length ≤ maxLength := by
  cases f with
  | hid rx => exact (Assembly.Fits.push h frame).2 response hr
  | u2f =>
    cases hr
    exact hf

theorem Fits.prepare (h : l.Fits) (bs : Bytes) : (l.prepare bs).2.Fits := by
  cases l with
  | usb u =>
    have hp := u.prepares bs
    simp only [Link.prepare]
    generalize u.prepare bs = r at hp ⊢
    cases hp with
    | overflow | refused | aside | elsewhere => exact h
    | frame => exact UsbFraming.Fits.receive h _
  | nfc l => exact h

theorem length_prepare (h : l.Fits) (hr : (l.prepare bs).1 = .ok (some response)) :
    response.length ≤ maxLength := by
  cases l with
  | usb u =>
    have hp := u.prepares bs
    simp only [Link.prepare] at hr
    generalize u.prepare bs = r at hp hr
    cases hp with
    | overflow | refused | aside | elsewhere => cases hr
    | @frame p hd =>
      have hl := (Usb.Preparation.encode_eq_ok_iff.1 (Usb.Preparation.decode_eq_ok_iff.1 hd)).1
      exact length_receive h (Nat.le_trans hl (by decide)) hr
  | nfc l => cases hr

/-- **Whatever comes of the firmware**, no more of a response is waited for than can be announced. -/
theorem Takes.fits {r : Except LinkError (Option Bytes)} (h : l.Fits) (ht : l.Takes r l') : l'.Fits := by
  cases ht with
  | respond bs => exact h.respond bs
  | config bs => exact h.config bs
  | prepare bs => exact h.prepare bs

end Fits

end Link
end Seph
