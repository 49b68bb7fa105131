import Seph.Proofs.Apdu.RoundTrip
import Seph.Proofs.Link.Run

/-!
# Responses among other traffic

Over USB HID the firmware sends a response in chunks, one with each preparation of the endpoint from the
device. Between two chunks the link may be used for anything else.

1. `received_run`: the chunks are put together as if nothing had come between them.
2. `acknowledged_run`: what the link has to say about preparations is one acknowledgement for each that
   brings data, on whatever endpoint and whatever becomes of the data.
3. `response_among_other_traffic`: so a response arrives whole, at its last chunk.
-/

namespace Seph

/-- The packet is a transfer from the device, with or without data. -/
def Packet.acknowledges (p : Packet) : Bool :=
  p.tag == .usbTransfer && p.payload[1]? == some Usb.TransferKind.input.code

theorem Packet.acknowledges_of_carriesApdu {p : Packet} (h : p.carriesApdu = true) :
    p.acknowledges = false := by
  obtain ⟨tag, bs⟩ := p
  by_cases ht : tag = .usbTransfer
  · subst ht
    have hk : (bs[1]? == some Usb.TransferKind.output.code) = true := h
    show (bs[1]? == some Usb.TransferKind.input.code) = false
    rw [eq_of_beq hk]
    decide
  · show (tag == .usbTransfer && _) = false
    rw [beq_eq_false_iff_ne.2 ht, Bool.false_and]

namespace Link

/-! ## Data from the device -/

/-- The preparation of an endpoint that an operation brings, if it is one with data from the device. -/
def Op.input? : Op → Option Usb.Preparation
  | .prepare bs => match Usb.Preparation.decode bs with
    | .ok p => if p.dir = .input then some p else none
    | .error _ => none
  | .config _ | .respond _ | .send _ | .poll => none

/-- The data that an operation brings from a given endpoint. -/
def Op.frame? (ep : UInt8) (o : Op) : Option Bytes :=
  o.input?.bind fun p => if p.ep = ep then some p.data else none

/-- What was given back for data from a given endpoint. -/
def Event.received? (ep : UInt8) : Event → Option (Except LinkError (Option Bytes))
  | ⟨o, .received r⟩ => if (o.frame? ep).isSome then some r else none
  | _ => none

/-- The endpoint from a device with numbered chunks. -/
def hidIn : UInt8 := 0x82

/-- What has come of a response, over a USB link with numbered chunks. -/
def assembly? : Link → Option Assembly
  | usb ⟨_, _, .hid rx, _, _⟩ => some rx
  | usb ⟨_, _, .u2f, _, _⟩ | nfc _ => none

/-- A USB link with numbered chunks expects the first chunk of a response. -/
def IsIdle (l : Link) : Prop :=
  ∃ rx, l.assembly? = some rx ∧ rx.channel = Apdu.hidChannel ∧ rx.seq = 0

theorem isIdle_new : (new .hid).IsIdle := ⟨Assembly.empty Apdu.hidChannel, rfl, rfl, rfl⟩

theorem input?_eq_some_iff {o : Op} {p : Usb.Preparation} :
    o.input? = some p ↔
      ∃ bs, o = .prepare bs ∧ Usb.Preparation.decode bs = .ok p ∧ p.dir = .input := by
  constructor
  · intro h
    cases o with
    | config | respond | send | poll => cases h
    | prepare bs =>
      cases hd : Usb.Preparation.decode bs with
      | error e =>
        simp only [Op.input?, hd] at h
        cases h
      | ok q =>
        simp only [Op.input?, hd, Option.ite_none_right_eq_some] at h
        obtain ⟨hq, h⟩ := h
        cases h
        exact ⟨bs, rfl, hd, hq⟩
  · rintro ⟨bs, rfl, hd, hp⟩
    simp only [Op.input?, hd, hp, if_true]

theorem frame?_eq_some_iff {o : Op} {ep : UInt8} {frame : Bytes} :
    o.frame? ep = some frame ↔
      ∃ bs, o = .prepare bs ∧ Usb.Preparation.decode bs = .ok ⟨ep, .input, frame⟩ := by
  unfold Op.frame?
  simp only [Option.bind_eq_some_iff, input?_eq_some_iff, Option.ite_none_right_eq_some,
    Option.some.injEq]
  constructor
  · rintro ⟨⟨ep, dir, data⟩, ⟨bs, rfl, hd, rfl⟩, rfl, rfl⟩
    exact ⟨bs, rfl, hd⟩
  · rintro ⟨bs, rfl, hd⟩
    exact ⟨_, ⟨bs, rfl, hd, rfl⟩, rfl, rfl⟩

theorem frame?_prepare {ep : UInt8} {frame : Bytes} (h : frame.length = 64) :
    (Op.prepare (ep :: Usb.Direction.input.code :: 64 :: frame)).frame? ep = some frame := by
  refine frame?_eq_some_iff.2 ⟨_, rfl, ?_⟩
  have hdir : Usb.Direction.ofCode? Usb.Direction.input.code = some .input := by decide
  have hsize : (64 : UInt8).toNat = 64 := by decide
  simp only [Usb.Preparation.decode, hdir, hsize, Usb.maxTransfer]
  rw [if_neg (Nat.lt_irrefl 64), if_neg (fun hn => hn h)]

section Steps

variable {l : Link} {u : UsbLink} {rx : Assembly} {o : Op} {frame : Bytes}

theorem exists_of_assembly? (h : l.assembly? = some rx) :
    ∃ state ready pending outbox, l = usb ⟨state, ready, .hid rx, pending, outbox⟩ := by
  obtain ⟨state, ready, _ | _, pending, outbox⟩ | l := l
  · cases h
    exact ⟨state, ready, pending, outbox, rfl⟩
  · cases h
  · cases h

/-- A frame from the device goes to the assembly, which alone decides what is given back. -/
theorem step_of_frame (h : l.assembly? = some rx) (hf : o.frame? hidIn = some frame) :
    (l.step o).1 = .received (rx.push frame).1 ∧
      (l.step o).2.assembly? = some (rx.push frame).2 := by
  obtain ⟨state, ready, pending, outbox, rfl⟩ := exists_of_assembly? h
  obtain ⟨bs, rfl, hd⟩ := frame?_eq_some_iff.1 hf
  simp only [step, prepare, UsbLink.prepare, hd]
  exact ⟨rfl, rfl⟩

theorem framing_send (u : UsbLink) (apdu : Bytes) : (u.send apdu).2.framing = u.framing := by
  have hs := u.sends apdu
  generalize u.send apdu = r at hs ⊢
  cases hs with
  | refused | posted | kept => rfl

theorem framing_config (u : UsbLink) (bs : Bytes) : (u.config bs).2.framing = u.framing := by
  unfold UsbLink.config
  split
  · exact u.framing_configure _
  · rfl

theorem framing_prepare {bs : Bytes} (hf : (Op.prepare bs).frame? u.framing.epIn = none) :
    (u.prepare bs).2.framing = u.framing := by
  have hp := u.prepares bs
  generalize u.prepare bs = r at hp ⊢
  cases hp with
  | overflow | refused | aside | elsewhere => rfl
  | @frame p hd hdir hep =>
    have hframe : (Op.prepare bs).frame? u.framing.epIn = some p.data :=
      frame?_eq_some_iff.2 ⟨bs, rfl, by rw [hd, ← hdir, ← hep]⟩
    rw [hframe] at hf
    cases hf

/-- **Nothing else touches the assembly.** -/
theorem step_of_no_frame (h : l.assembly? = some rx) (hf : o.frame? hidIn = none) :
    (l.step o).2.assembly? = some rx := by
  obtain ⟨state, ready, pending, outbox, rfl⟩ := exists_of_assembly? h
  have same {u' : UsbLink} (hu : u'.framing = .hid rx) : (usb u').assembly? = some rx := by
    obtain ⟨state, ready, framing, pending, outbox⟩ := u'
    cases hu
    rfl
  cases o with
  | config bs => exact same (framing_config _ bs)
  | prepare bs => exact same (framing_prepare hf)
  | respond bs => rfl
  | send apdu => exact same (framing_send _ apdu)
  | poll =>
    simp only [step, poll]
    split <;> rfl

end Steps

/-! ## Runs -/

/-- **Frames from the device are put together as if nothing came between them.** -/
theorem received_run {l : Link} {rx : Assembly} (h : l.assembly? = some rx) (os : List Op) :
    (l.trace os).filterMap (Event.received? hidIn) = rx.results (os.filterMap (Op.frame? hidIn)) ∧
      (l.after os).assembly? = some (rx.after (os.filterMap (Op.frame? hidIn))) := by
  induction os generalizing l rx with
  | nil => exact ⟨rfl, h⟩
  | cons o os ih =>
    rw [trace_cons, after_cons, filterMap_cons_toList, filterMap_cons_toList]
    cases hf : o.frame? hidIn with
    | none =>
      have he : Event.received? hidIn ⟨o, (l.step o).1⟩ = none := by
        generalize (l.step o).1 = r
        cases r with
        | received r => simp only [Event.received?, hf, Option.isSome_none, Bool.false_eq_true, if_false]
        | done | polled => rfl
      rw [he]
      exact ih (step_of_no_frame h hf)
    | some frame =>
      obtain ⟨hr, ha⟩ := step_of_frame h hf
      have he : Event.received? hidIn ⟨o, (l.step o).1⟩ = some (rx.push frame).1 := by
        rw [hr]
        simp only [Event.received?, hf, Option.isSome_some, if_true]
      obtain ⟨ihr, iha⟩ := ih ha
      rw [he, ihr]
      exact ⟨rfl, iha⟩

/-! ## Acknowledgements -/

/-- The acknowledgement of the data that an operation brings: an empty transfer from its endpoint. -/
def Op.acknowledgement? (o : Op) : Option Packet :=
  o.input?.map fun p => ⟨.usbTransfer, [p.ep, 0x02, 0]⟩

section Acknowledgements

variable {u : UsbLink}

theorem filter_acknowledges_of_carriesApdu {ps : List Packet} (h : ∀ p ∈ ps, p.carriesApdu = true) :
    ps.filter Packet.acknowledges = [] := by
  rw [List.filter_eq_nil_iff]
  intro p hp
  rw [Packet.acknowledges_of_carriesApdu (h p hp)]
  exact Bool.false_ne_true

theorem PendingCarries.filter_acknowledges {l : Link} (h : l.PendingCarries) :
    l.pending.filter Packet.acknowledges = [] :=
  filter_acknowledges_of_carriesApdu (List.filter_eq_self.1 h)

theorem acknowledged_config (h : (usb u).PendingCarries) (bs : Bytes) :
    (u.config bs).2.outbox.filter Packet.acknowledges = u.outbox.filter Packet.acknowledges := by
  have hp : u.pending.filter Packet.acknowledges = [] := h.filter_acknowledges
  unfold UsbLink.config
  split
  · rename_i c _ _
    cases c with
    | connect | address =>
      show (u.outbox ++ [_]).filter Packet.acknowledges = _
      rw [List.filter_append]
      exact List.append_nil _
    | disconnect => rfl
    | endpoints eps =>
      simp only [UsbLink.configure]
      split
      · show (u.outbox ++ u.pending).filter Packet.acknowledges = _
        rw [List.filter_append, hp, List.append_nil]
      · rfl
  · rfl

theorem acknowledged_send (apdu : Bytes) :
    (u.send apdu).2.outbox.filter Packet.acknowledges = u.outbox.filter Packet.acknowledges := by
  have hs := u.sends apdu
  generalize u.send apdu = r at hs ⊢
  cases hs with
  | refused | kept => rfl
  | @posted ps hps =>
    have hp := filter_acknowledges_of_carriesApdu fun p hp => (UsbLink.of_mem_transfers hps hp).1
    show (u.outbox ++ ps).filter Packet.acknowledges = _
    rw [List.filter_append, hp, List.append_nil]

theorem acknowledged_prepare (bs : Bytes) :
    (u.prepare bs).2.outbox.filter Packet.acknowledges =
      u.outbox.filter Packet.acknowledges ++ (Op.prepare bs).acknowledgement?.toList := by
  have posted (ep : UInt8) : (u.post [UsbLink.acknowledge ep]).outbox.filter Packet.acknowledges =
      u.outbox.filter Packet.acknowledges ++ [⟨.usbTransfer, [ep, 0x02, 0]⟩] := List.filter_append _ _
  have hp := u.prepares bs
  generalize u.prepare bs = r at hp ⊢
  unfold Op.acknowledgement? Op.input?
  cases hp with
  | overflow hd | refused hd =>
    simp only [hd]
    exact (List.append_nil _).symm
  | aside hd hdir =>
    simp only [hd, if_neg hdir]
    exact (List.append_nil _).symm
  | elsewhere hd hdir | frame hd hdir =>
    simp only [hd, if_pos hdir]
    exact posted _

/-- **One acknowledgement for each operation that brings data**, behind those that wait. -/
theorem acknowledged_step {l : Link} (hk : l.kind ≠ .nfc) (h : l.PendingCarries) (o : Op) :
    ((Event.polled? ⟨o, (l.step o).1⟩).toList ++ (l.step o).2.outbox).filter Packet.acknowledges =
      l.outbox.filter Packet.acknowledges ++ o.acknowledgement?.toList := by
  cases l with
  | nfc l => exact absurd rfl hk
  | usb u =>
    cases o with
    | config bs => exact (acknowledged_config h bs).trans (List.append_nil _).symm
    | prepare bs => exact acknowledged_prepare bs
    | respond bs => exact (List.append_nil _).symm
    | send apdu => exact (acknowledged_send apdu).trans (List.append_nil _).symm
    | poll =>
      refine Eq.trans ?_ (List.append_nil _).symm
      simp only [step, poll]
      split
      · rename_i p ps ho
        rw [ho]
        rfl
      · rfl

theorem acknowledged_run {l : Link} (hk : l.kind ≠ .nfc) (h : l.PendingCarries) (os : List Op) :
    ((l.trace os).filterMap Event.polled? ++ (l.after os).outbox).filter Packet.acknowledges =
      l.outbox.filter Packet.acknowledges ++ os.filterMap Op.acknowledgement? := by
  induction os generalizing l with
  | nil => exact (List.append_nil _).symm
  | cons o os ih =>
    have hs := acknowledged_step hk h o
    have hk' : (l.step o).2.kind ≠ .nfc := by rwa [(unsent_step l o).2]
    rw [trace_cons, after_cons, filterMap_cons_toList, filterMap_cons_toList, List.append_assoc,
      List.filter_append, ih hk' (h.step o), ← List.append_assoc, ← List.filter_append, hs,
      List.append_assoc]

end Acknowledgements

/-- **A response arrives whole among other traffic.** Let a device with numbered chunks have come to any
point of any run. Whatever is done from there on, the acknowledgements that are polled, and behind them
those in the outbox, are the ones that were in the outbox and then one for each preparation that is
understood and brings data from the device, an empty transfer from its endpoint, in order. And if the
link is idle at that point, then a response of at most 65535 bytes has chunks, each of which fills a
preparation; and whatever comes between preparations with these chunks, each of them but the last gives
nothing, the last gives the response, and the link is idle again. -/
theorem response_among_other_traffic (before : List Op) :
    let l := (new .hid).after before
    (∀ os, ((l.trace os).filterMap Event.polled? ++ (l.after os).outbox).filter Packet.acknowledges =
      l.outbox.filter Packet.acknowledges ++ os.filterMap Op.acknowledgement?) ∧
    (l.IsIdle → ∀ response : Bytes, response.length ≤ 65535 →
      ∃ cs, Apdu.chunks Apdu.hidChannel Apdu.hidFrame true response = .ok cs ∧
        (∀ c ∈ cs, (Op.prepare (hidIn :: Usb.Direction.input.code :: 64 :: c)).frame? hidIn = some c) ∧
        ∀ os : List Op, os.filterMap (Op.frame? hidIn) = cs →
          (l.trace os).filterMap (Event.received? hidIn) =
            List.replicate (cs.length - 1) (.ok none) ++ [.ok (some response)] ∧
          (l.after os).IsIdle) := by
  intro l
  have hkind : l.kind = .hid := (kind_after (new .hid) before).trans (kind_new .hid)
  refine ⟨fun os => ?_, fun idle response hlen => ?_⟩
  · exact acknowledged_run (by rw [hkind]; decide) ((pendingCarries_new .hid).after before) os
  · obtain ⟨rx, ha, hc, hseq⟩ := idle
    have room : 7 ≤ Apdu.hidFrame := by decide
    have hcs : Apdu.chunks Apdu.hidChannel Apdu.hidFrame true response = .ok _ :=
      Apdu.chunks_of_le Apdu.hidChannel room hlen
    have hd := Assembly.delivers_chunks true room hlen hseq
    rw [hc] at hd
    refine ⟨_, hcs, fun c hm => frame?_prepare ((Apdu.length_of_mem_chunks room hcs hm).2 rfl),
      fun os hos => ?_⟩
    obtain ⟨hr, hafter⟩ := received_run ha os
    rw [hos] at hr hafter
    rw [hd.after_eq, hc] at hafter
    exact ⟨hr.trans hd.results_eq, Assembly.empty Apdu.hidChannel, hafter, rfl, rfl⟩

/-- A response in two chunks. Between them come a request, a poll, data from another endpoint, a
preparation to receive and one that is not understood. -/
theorem response_around_request :
    let response : Bytes := List.replicate 60 7
    let first : Bytes := [1, 1, 5, 0, 0, 0, 60] ++ List.replicate 57 7
    let last : Bytes := [1, 1, 5, 0, 1, 7, 7, 7] ++ List.replicate 56 0
    let os : List Op := [.config [1], .prepare (0x82 :: 0x20 :: 64 :: first), .send [0x80], .poll,
      .prepare [0x84, 0x20, 1, 9], .prepare [0x82, 0x30, 0], .prepare [0x82, 0x20, 65],
      .prepare (0x82 :: 0x20 :: 64 :: last)]
    (new .hid).IsIdle ∧
      ((new .hid).trace os).filterMap (Event.received? hidIn) = [.ok none, .ok (some response)] ∧
      ((new .hid).after os).IsIdle ∧
      (((new .hid).trace os).filterMap Event.polled? ++ ((new .hid).after os).outbox).filter
        Packet.acknowledges =
          [⟨.usbTransfer, [0x82, 2, 0]⟩, ⟨.usbTransfer, [0x84, 2, 0]⟩, ⟨.usbTransfer, [0x82, 2, 0]⟩] := by
  intro response first last os
  obtain ⟨hack, hresp⟩ := response_among_other_traffic []
  obtain ⟨cs, hcs, -, hrun⟩ := hresp isIdle_new response (by decide)
  have two : (Apdu.chunks Apdu.hidChannel Apdu.hidFrame true response).toOption =
      some [first, last] := by decide +kernel
  have hcs : cs = [first, last] := by
    rw [hcs] at two
    exact Option.some.inj two
  subst hcs
  obtain ⟨hr, hi⟩ := hrun os (by decide +kernel)
  have acks : os.filterMap Op.acknowledgement? =
      [⟨.usbTransfer, [0x82, 2, 0]⟩, ⟨.usbTransfer, [0x84, 2, 0]⟩, ⟨.usbTransfer, [0x82, 2, 0]⟩] := by
    decide +kernel
  exact ⟨isIdle_new, hr, hi, (hack os).trans acks⟩

end Link
end Seph
