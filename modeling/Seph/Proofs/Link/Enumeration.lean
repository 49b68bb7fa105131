import Mathlib.Data.List.Induction
import Seph.Proofs.Link.Run

/-!
# Transfers and the enumeration of a USB device

A transfer to a USB device goes to the outbox at once when the link takes the device for ready, and
waits otherwise. What the link goes by is told from the configuration messages alone (`Follows`): a
configuration was selected since the device was last connected or disconnected, and its endpoint was
announced since it was last disconnected. Whether the device has gone through its whole enumeration
since it was last connected is another matter (`Enumerated`): a new connection does not take back what
was announced before it.

1. `Announced.enumerated`: the two agree when the device asks for a configuration only while it is
   connected, and is connected anew only after it was disconnected (`Orderly`).
2. `Follows.step`: every operation keeps the link in step with the messages.
3. `transfers_of_announced`: when a transfer to the device goes to the outbox.
-/

namespace Seph

namespace Usb.Config

/-! ## Histories of configuration messages -/

/-- The device is connected or disconnected. -/
def isPlug : Config → Bool
  | connect | disconnect => true
  | address | endpoints _ => false

/-- The message announces an endpoint. -/
def announces (ep : UInt8) : Config → Bool
  | endpoints eps => eps.any fun e => e.ep == ep
  | connect | disconnect | address => false

/-- The messages from the last connection or disconnection on. -/
def session (cs : List Config) : List Config :=
  cs.foldl (fun s c => if c.isPlug then [c] else s ++ [c]) []

/-- Since the device was last connected or disconnected it has gone through its whole enumeration: it
was connected, then given an address, and then it announced the endpoint. -/
def Enumerated (ep : UInt8) (cs : List Config) : Prop :=
  ∃ c ∈ session cs, c.announces ep = true ∧ [connect, address, c].Sublist (session cs)

instance (ep : UInt8) (cs : List Config) : Decidable (Enumerated ep cs) :=
  inferInstanceAs (Decidable (∃ c ∈ session cs, _))

/-- The endpoint was announced when a configuration was selected, and the device has not been
disconnected since. -/
def Announced (ep : UInt8) (cs : List Config) : Prop :=
  ∃ a c b, cs = a ++ c :: b ∧ c.announces ep = true ∧ address ∈ session a ∧ disconnect ∉ b

/-- The device asks for a configuration only while it is connected, and it is connected anew only when
the endpoint is not announced. -/
structure Orderly (ep : UInt8) (cs : List Config) : Prop where
  connected : ∀ a b, cs = a ++ address :: b → connect ∈ session a
  unannounced : ∀ a b, cs = a ++ connect :: b → ¬ Announced ep a

section Histories

variable {ep : UInt8} {cs : List Config} {c : Config}

theorem session_concat (cs : List Config) (c : Config) :
    session (cs ++ [c]) = if c.isPlug then [c] else session cs ++ [c] := by
  rw [session, List.foldl_append]
  rfl

theorem split_concat {a b : List Config} {d : Config} (h : cs ++ [c] = a ++ d :: b) :
    (cs = a ∧ c = d ∧ b = []) ∨ ∃ b', b = b' ++ [c] ∧ cs = a ++ d :: b' := by
  rcases List.eq_nil_or_concat b with rfl | ⟨b, e, rfl⟩
  · obtain ⟨ha, hd⟩ := List.append_inj' h rfl
    exact .inl ⟨ha, (List.cons.inj hd).1, rfl⟩
  · rw [List.concat_eq_append, ← List.cons_append, ← List.append_assoc] at h
    obtain ⟨ha, he⟩ := List.append_inj' h rfl
    obtain rfl := (List.cons.inj he).1
    exact .inr ⟨b, List.concat_eq_append, ha⟩

theorem isPlug_of_announces (h : c.announces ep = true) : c.isPlug = false := by
  cases c with
  | endpoints => rfl
  | connect | disconnect | address => cases h

theorem not_announced_nil : ¬ Announced ep [] := by
  rintro ⟨a, c, b, h, -⟩
  simp at h

theorem announced_concat :
    Announced ep (cs ++ [c]) ↔
      (c.announces ep = true ∧ address ∈ session cs) ∨ (c ≠ disconnect ∧ Announced ep cs) := by
  constructor
  · rintro ⟨a, d, b, h, hd, ha, hb⟩
    rcases split_concat h with ⟨rfl, rfl, -⟩ | ⟨b, rfl, rfl⟩
    · exact .inl ⟨hd, ha⟩
    · rw [List.mem_append, not_or] at hb
      exact .inr ⟨fun hc => hb.2 (by rw [hc]; simp), a, d, b, rfl, hd, ha, hb.1⟩
  · rintro (⟨hc, ha⟩ | ⟨hc, a, d, b, rfl, hd, ha, hb⟩)
    · exact ⟨cs, c, [], rfl, hc, ha, by simp⟩
    · refine ⟨a, d, b ++ [c], by simp, hd, ha, ?_⟩
      rw [List.mem_append, not_or]
      exact ⟨hb, fun h => hc (List.mem_singleton.1 h).symm⟩

theorem enumerated_concat_of_plug (h : c.isPlug = true) : ¬ Enumerated ep (cs ++ [c]) := by
  rintro ⟨d, -, -, hs⟩
  rw [session_concat, if_pos h] at hs
  have := hs.length_le
  simp at this

theorem enumerated_concat (h : c.isPlug = false) :
    Enumerated ep (cs ++ [c]) ↔
      Enumerated ep cs ∨ (c.announces ep = true ∧ [connect, address].Sublist (session cs)) := by
  have hsc : session (cs ++ [c]) = session cs ++ [c] := by rw [session_concat, h]; rfl
  rw [Enumerated, hsc]
  constructor
  · rintro ⟨d, -, hd, hs⟩
    obtain ⟨s, t, hst, hl, ht⟩ := List.sublist_append_iff.1 hs
    rcases List.sublist_cons_iff.1 ht with hn | ⟨r, rfl, hn⟩
    · rw [List.sublist_nil.1 hn, List.append_nil] at hst
      rw [← hst] at hl
      exact .inl ⟨d, hl.subset (by simp), hd, hl⟩
    · rw [List.sublist_nil.1 hn] at hst
      obtain ⟨rfl, hc⟩ := List.append_inj' (show [connect, address] ++ [d] = s ++ [c] from hst) rfl
      cases hc
      exact .inr ⟨hd, hl⟩
  · rintro (⟨d, hm, hd, hs⟩ | ⟨hc, hs⟩)
    · exact ⟨d, List.mem_append_left _ hm, hd, hs.trans (List.sublist_append_left _ _)⟩
    · exact ⟨c, by simp, hc, hs.append (.refl [c])⟩

/-- A device that has gone through its enumeration has its endpoint announced. -/
theorem Enumerated.announced (h : Enumerated ep cs) : Announced ep cs := by
  induction cs using List.reverseRecOn with
  | nil =>
    obtain ⟨c, hm, -⟩ := h
    cases hm
  | append_singleton cs c ih =>
    rw [announced_concat]
    cases hp : c.isPlug with
    | true => exact absurd h (enumerated_concat_of_plug hp)
    | false =>
      rcases (enumerated_concat hp).1 h with h | ⟨hc, hs⟩
      · refine .inr ⟨fun hc => ?_, ih h⟩
        rw [hc] at hp
        cases hp
      · exact .inl ⟨hc, hs.subset (by simp)⟩

theorem Enumerated.selected (h : Enumerated ep cs) : address ∈ session cs := by
  obtain ⟨c, -, -, hs⟩ := h
  exact hs.subset (by simp)

theorem orderly_nil : Orderly ep [] := ⟨by simp, by simp⟩

theorem orderly_concat :
    Orderly ep (cs ++ [c]) ↔ Orderly ep cs ∧ (c = address → connect ∈ session cs) ∧
      (c = connect → ¬ Announced ep cs) := by
  constructor
  · intro h
    refine ⟨⟨fun a b hs => ?_, fun a b hs => ?_⟩, ?_, ?_⟩
    · exact h.connected a (b ++ [c]) (by rw [hs]; simp)
    · exact h.unannounced a (b ++ [c]) (by rw [hs]; simp)
    · rintro rfl
      exact h.connected cs [] rfl
    · rintro rfl
      exact h.unannounced cs [] rfl
  · rintro ⟨h, ha, hc⟩
    refine ⟨fun a b hs => ?_, fun a b hs => ?_⟩
    · rcases split_concat hs with ⟨rfl, hd, -⟩ | ⟨b', -, hs⟩
      · exact ha hd
      · exact h.connected a b' hs
    · rcases split_concat hs with ⟨rfl, hd, -⟩ | ⟨b', -, hs⟩
      · exact hc hd
      · exact h.unannounced a b' hs

/-- A device that behaves has been connected before its configuration was selected. -/
theorem Orderly.sublist (h : Orderly ep cs) (hs : address ∈ session cs) :
    [connect, address].Sublist (session cs) := by
  induction cs using List.reverseRecOn with
  | nil => cases hs
  | append_singleton cs c ih =>
    obtain ⟨h, ha, -⟩ := orderly_concat.1 h
    rw [session_concat] at hs ⊢
    cases hp : c.isPlug with
    | true =>
      rw [hp] at hs
      obtain rfl := List.mem_singleton.1 hs
      cases hp
    | false =>
      rw [hp] at hs
      rcases List.mem_append.1 hs with hs | hs
      · exact (ih h hs).trans (List.sublist_append_left _ _)
      · obtain rfl := List.mem_singleton.1 hs
        exact (List.singleton_sublist.2 (ha rfl)).append (.refl [address])

/-- **A device that behaves has gone through its whole enumeration when its endpoint is announced.** -/
theorem Announced.enumerated (h : Announced ep cs) (ho : Orderly ep cs) : Enumerated ep cs := by
  induction cs using List.reverseRecOn with
  | nil => exact absurd h not_announced_nil
  | append_singleton cs c ih =>
    obtain ⟨hoc, -, hc⟩ := orderly_concat.1 ho
    rcases announced_concat.1 h with ⟨hn, hs⟩ | ⟨hn, ha⟩
    · exact (enumerated_concat (isPlug_of_announces hn)).2 (.inr ⟨hn, hoc.sublist hs⟩)
    · cases c with
      | connect => exact absurd ha (hc rfl)
      | disconnect => exact absurd rfl hn
      | address | endpoints => exact (enumerated_concat rfl).2 (.inl (ih ha hoc))

end Histories

end Usb.Config

open Usb Usb.Config

/-! ## What the link goes by -/

/-- A USB link is in step with the configuration messages that it has handled. -/
structure UsbLink.Follows (l : UsbLink) (cs : List Config) : Prop where
  configured : l.state = .configured ↔ address ∈ session cs
  ready : l.ready = true ↔ Announced l.framing.epOut cs
  flushed : Enumerated l.framing.epOut cs → l.pending = []

namespace UsbLink

theorem follows_new (f : UsbFraming) : (new f).Follows [] where
  configured := by simp [new, session]
  ready := by simp [new, not_announced_nil]
  flushed _ := rfl

theorem epOut_receive (f : UsbFraming) (bs : Bytes) : (f.receive bs).2.epOut = f.epOut := by
  cases f <;> rfl

theorem Follows.of_eq {l l' : UsbLink} {cs : List Config} (h : l.Follows cs)
    (hs : l'.state = l.state) (hr : l'.ready = l.ready) (hp : l'.pending = l.pending)
    (he : l'.framing.epOut = l.framing.epOut) : l'.Follows cs where
  configured := by rw [hs]; exact h.configured
  ready := by rw [hr, he]; exact h.ready
  flushed := by rw [hp, he]; exact h.flushed

theorem Follows.configure {l : UsbLink} {cs : List Config} (h : l.Follows cs) (c : Config) :
    (l.configure c).Follows (cs ++ [c]) := by
  cases c with
  | connect =>
    refine ⟨?_, ?_, fun he => absurd he (enumerated_concat_of_plug rfl)⟩
    · simp [UsbLink.configure, session_concat, isPlug]
    · refine h.ready.trans ?_
      simp [announced_concat, announces, UsbLink.configure, UsbLink.post]
  | disconnect =>
    refine ⟨?_, ?_, fun he => absurd he (enumerated_concat_of_plug rfl)⟩
    · simp [UsbLink.configure, session_concat, isPlug]
    · simp [UsbLink.configure, announced_concat, announces]
  | address =>
    refine ⟨?_, ?_, fun he => ?_⟩
    · simp [UsbLink.configure, session_concat, isPlug]
    · refine h.ready.trans ?_
      simp [announced_concat, announces, UsbLink.configure, UsbLink.post]
    · rcases (enumerated_concat rfl).1 he with he | ⟨hn, -⟩
      · exact h.flushed he
      · cases hn
  | endpoints eps =>
    have hs : address ∈ session (cs ++ [.endpoints eps]) ↔ address ∈ session cs := by
      simp [session_concat, isPlug]
    simp only [UsbLink.configure]
    split
    · rename_i hc
      refine ⟨?_, ?_, fun _ => rfl⟩
      · exact h.configured.trans hs.symm
      · have ha : Announced l.framing.epOut (cs ++ [.endpoints eps]) :=
          announced_concat.2 (.inl ⟨hc.2, h.configured.1 hc.1⟩)
        exact ⟨fun _ => ha, fun _ => rfl⟩
    · rename_i hc
      -- a list that does not count announces nothing and completes nothing
      have hn : ¬ ((Config.endpoints eps).announces l.framing.epOut = true ∧ address ∈ session cs) :=
        fun hn => hc ⟨h.configured.2 hn.2, hn.1⟩
      refine ⟨h.configured.trans hs.symm, ?_, fun he => ?_⟩
      · rw [announced_concat, h.ready]
        simp [hn]
      · rcases (enumerated_concat rfl).1 he with he | ⟨ha, hca⟩
        · exact h.flushed he
        · exact absurd ⟨ha, hca.subset (by simp)⟩ hn

theorem Follows.send {l : UsbLink} {cs : List Config} (h : l.Follows cs) (apdu : Bytes) :
    (l.send apdu).2.Follows cs ∧ (l.send apdu).2.framing.epOut = l.framing.epOut := by
  have hs := l.sends apdu
  generalize l.send apdu = r at hs ⊢
  cases hs with
  | refused => exact ⟨h, rfl⟩
  | posted => exact ⟨h.of_eq rfl rfl rfl rfl, rfl⟩
  | kept _ hc =>
    -- nothing would have to wait on an enumerated device
    refine ⟨⟨h.configured, h.ready, fun he => absurd ?_ hc⟩, rfl⟩
    exact ⟨h.configured.2 he.selected, h.ready.2 he.announced, h.flushed he⟩

theorem Follows.prepare {l : UsbLink} {cs : List Config} (h : l.Follows cs) (bs : Bytes) :
    (l.prepare bs).2.Follows cs ∧ (l.prepare bs).2.framing.epOut = l.framing.epOut := by
  have hp := l.prepares bs
  generalize l.prepare bs = r at hp ⊢
  cases hp with
  | overflow | refused | aside => exact ⟨h, rfl⟩
  | elsewhere => exact ⟨h.of_eq rfl rfl rfl rfl, rfl⟩
  | @frame p =>
    have he := epOut_receive l.framing p.data
    exact ⟨h.of_eq rfl rfl rfl he, he⟩

/-! ## Transfers in the outbox -/

/-- The number of transfers to the device in the outbox. -/
def out (l : UsbLink) : Nat := l.outbox.countP Packet.carriesApdu

theorem out_post {l : UsbLink} {p : Packet} (h : p.carriesApdu = false) :
    (l.post [p]).out = l.out := by simp [out, post, h]

/-- A configuration message lets transfers out only if it leaves the device ready. -/
theorem out_configure (l : UsbLink) (c : Config) :
    (l.configure c).out = l.out ∨
      (l.configure c).state = .configured ∧ (l.configure c).ready = true := by
  cases c with
  | connect => exact .inl (out_post (p := setup setAddress) rfl)
  | address => exact .inl (out_post (p := setup setConfiguration) rfl)
  | disconnect => exact .inl rfl
  | endpoints eps =>
    simp only [UsbLink.configure]
    split
    · rename_i h
      exact .inr ⟨h.1, rfl⟩
    · exact .inl rfl

theorem out_prepare (l : UsbLink) (bs : Bytes) : (l.prepare bs).2.out = l.out := by
  have acknowledged (ep : UInt8) : (l.post [acknowledge ep]).out = l.out := out_post rfl
  have hp := l.prepares bs
  generalize l.prepare bs = r at hp ⊢
  cases hp with
  | overflow | refused | aside => rfl
  | elsewhere | frame => exact acknowledged _

theorem out_send (l : UsbLink) (apdu : Bytes) :
    (l.send apdu).2.out = l.out ∨
      (l.send apdu).2.state = .configured ∧ (l.send apdu).2.ready = true := by
  have hs := l.sends apdu
  generalize l.send apdu = r at hs ⊢
  cases hs with
  | refused | kept => exact .inl rfl
  | posted _ hc => exact .inr ⟨hc.1, hc.2.1⟩

end UsbLink

namespace Link

/-! ## Runs -/

/-- The configuration message that an operation brings, if it is one that is understood. -/
def Op.config? : Op → Option Config
  | .config bs => match Config.decode bs with
    | .ok (c, _) => some c
    | .error _ => none
  | .prepare _ | .respond _ | .send _ | .poll => none

/-- The configuration messages of a run, in order. -/
def configs (os : List Op) : List Config := os.filterMap Op.config?

/-- An operation puts a transfer to the device into the outbox. -/
def Emits (l : Link) (o : Op) : Prop :=
  l.outbox.countP Packet.carriesApdu < (l.step o).2.outbox.countP Packet.carriesApdu

instance (l : Link) (o : Op) : Decidable (l.Emits o) := inferInstanceAs (Decidable (_ < _))

/-- What an operation leads to on a USB link that is in step with the messages: a link that is in step
with them and the message of the operation, and that takes the device for ready if the operation puts a
transfer into the outbox. -/
structure Steps (l : UsbLink) (cs : List Config) (o : Op) (l' : UsbLink) : Prop where
  follows : l'.Follows (cs ++ o.config?.toList)
  epOut : l'.framing.epOut = l.framing.epOut
  ready : l'.out ≤ l.out ∨ l'.state = .configured ∧ l'.ready = true

/-- **Every operation keeps a link in step with the messages.** -/
theorem usb_step {l : UsbLink} {cs : List Config} (h : l.Follows cs) (o : Op) :
    ∃ l', ((usb l).step o).2 = usb l' ∧ Steps l cs o l' := by
  have hsame : l.Follows (cs ++ []) := by rwa [List.append_nil]
  cases o with
  | config bs =>
    simp only [Link.step, Link.config, UsbLink.config]
    cases hd : Config.decode bs with
    | error e =>
      have ho : (Op.config bs).config? = none := by simp only [Op.config?, hd]
      exact ⟨l, rfl, by rw [ho]; exact hsame, rfl, .inl (Nat.le_refl _)⟩
    | ok r =>
      have ho : (Op.config bs).config? = some r.1 := by simp only [Op.config?, hd]
      refine ⟨l.configure r.1, rfl, by rw [ho]; exact h.configure r.1, ?_, ?_⟩
      · rw [UsbLink.framing_configure]
      · exact (l.out_configure r.1).imp Nat.le_of_eq id
  | prepare bs =>
    obtain ⟨hf, he⟩ := hsame.prepare bs
    exact ⟨_, rfl, hf, he, .inl (Nat.le_of_eq (l.out_prepare bs))⟩
  | respond bs => exact ⟨l, rfl, hsame, rfl, .inl (Nat.le_refl _)⟩
  | send apdu =>
    obtain ⟨hf, he⟩ := hsame.send apdu
    exact ⟨_, rfl, hf, he, (l.out_send apdu).imp Nat.le_of_eq id⟩
  | poll =>
    simp only [Link.step, poll]
    split
    · rename_i p ps ho
      refine ⟨{ l with outbox := ps }, rfl, hsame.of_eq rfl rfl rfl rfl, rfl, .inl ?_⟩
      have ho : l.outbox = p :: ps := ho
      rw [UsbLink.out, UsbLink.out, ho]
      exact (List.sublist_cons_self p ps).countP_le
    · exact ⟨l, rfl, hsame, rfl, .inl (Nat.le_refl _)⟩

/-- Along a run a USB link is in step with the messages. -/
theorem usb_after {l : UsbLink} {cs : List Config} (h : l.Follows cs) (os : List Op) :
    ∃ l', (usb l).after os = usb l' ∧ l'.Follows (cs ++ configs os) ∧
      l'.framing.epOut = l.framing.epOut := by
  induction os generalizing l cs with
  | nil => exact ⟨l, rfl, by rwa [configs, List.filterMap_nil, List.append_nil], rfl⟩
  | cons o os ih =>
    obtain ⟨l₁, h₁, hs⟩ := usb_step h o
    obtain ⟨l₂, h₂, hf, he⟩ := ih hs.follows
    refine ⟨l₂, by rw [after_cons, h₁, h₂], ?_, he.trans hs.epOut⟩
    rwa [configs, filterMap_cons_toList, ← List.append_assoc]

/-- **When a transfer to a USB device goes to the outbox.** In every run of a new link, whatever the
order of the configuration messages, a configuration was selected since the device was last connected
or disconnected, and its endpoint was announced since it was last disconnected. So the device has gone
through its whole enumeration if it has asked for configurations only while connected, and was
connected anew only after it was disconnected. And once it has, nothing waits. -/
theorem transfers_of_announced {k : LinkKind} {f : UsbFraming} (usb : Link.new k = .usb (.new f))
    (os : List Op) :
    (∀ o, ((new k).after os).Emits o →
      let cs := configs (os ++ [o])
      (address ∈ session cs ∧ Announced f.epOut cs) ∧
        (Orderly f.epOut cs → Enumerated f.epOut cs)) ∧
    (Enumerated f.epOut (configs os) → ((new k).after os).pending = []) := by
  obtain ⟨l, hl, hf, he⟩ := usb_after (UsbLink.follows_new f) os
  rw [List.nil_append] at hf
  have he : l.framing.epOut = f.epOut := he
  rw [usb, hl, ← he]
  refine ⟨fun o ho => ?_, hf.flushed⟩
  intro cs
  have hcs : cs = configs os ++ o.config?.toList := by
    show configs (os ++ [o]) = _
    rw [configs, List.filterMap_append, filterMap_cons_toList, List.filterMap_nil, List.append_nil]
    rfl
  obtain ⟨l', hl', hs⟩ := usb_step hf o
  have hout : l.out < l'.out := by
    rw [Emits, hl'] at ho
    exact ho
  obtain ⟨hc, hr⟩ := hs.ready.resolve_left (Nat.not_le_of_lt hout)
  have hfol := hs.follows
  rw [← hcs] at hfol
  have ha : Announced l.framing.epOut cs := by
    rw [← hs.epOut]
    exact hfol.ready.1 hr
  exact ⟨⟨hfol.configured.1 hc, ha⟩, ha.enumerated⟩

/-- An APDU that was sent before goes out at the end of the enumeration. -/
theorem transfers_of_enumerated :
    let os : List Op := [.send [0x80, 0x01], .config [1], .config [3]]
    let o : Op := .config [4, 2, 0x81, 3, 64, 0x01, 3, 64]
    let cs := configs (os ++ [o])
    Link.new .u2f = .usb (.new .u2f) ∧ ((new .u2f).after os).Emits o ∧ Orderly 0x01 cs ∧
      Enumerated 0x01 cs ∧ ((new .u2f).after (os ++ [o])).pending = [] := by
  intro os o cs
  have hcs : cs = [.connect, .address] ++ [.endpoints [⟨0x81, 3, 64⟩, ⟨0x01, 3, 64⟩]] := by decide
  have ho : Orderly 0x01 cs := by
    have h₁ : Orderly 0x01 ([] ++ [.connect]) :=
      orderly_concat.2 ⟨orderly_nil, nofun, fun _ => not_announced_nil⟩
    have h₂ : Orderly 0x01 ([.connect] ++ [.address]) :=
      orderly_concat.2 ⟨h₁, fun _ => by decide, nofun⟩
    rw [hcs]
    exact orderly_concat.2 ⟨h₂, nofun, nofun⟩
  have he : ((new .u2f).after os).Emits o := by decide +kernel
  have hu : Link.new .u2f = .usb (.new .u2f) := rfl
  have hn : Enumerated 0x01 cs := ((transfers_of_announced hu os).1 o he).2 ho
  exact ⟨hu, he, ho, hn, (transfers_of_announced hu (os ++ [o])).2 hn⟩

/-- **A new connection does not take back what was announced before it.** A device that was enumerated
is connected anew; as soon as a configuration is selected a transfer goes out, though the device has
not announced its endpoint again. Nor has a device to be connected at all. -/
theorem transfers_of_stale_announcement :
    let first : List Op := [.config [1], .config [3], .config [4, 1, 0x01, 3, 64]]
    let again : List Op := first ++ [.config [1], .config [3]]
    let unconnected : List Op := [.config [3], .config [4, 1, 0x01, 3, 64]]
    let send : Op := .send [0x80, 0x01]
    (((new .u2f).after again).Emits send ∧ session (configs (again ++ [send])) = [.connect, .address] ∧
      ¬ Enumerated 0x01 (configs (again ++ [send]))) ∧
    ((new .u2f).after unconnected).Emits send ∧
      Config.connect ∉ configs (unconnected ++ [send]) ∧
      ¬ Enumerated 0x01 (configs (unconnected ++ [send])) := by decide +kernel

end Link
end Seph
