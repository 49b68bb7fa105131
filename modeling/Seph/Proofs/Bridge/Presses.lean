import Seph.Proofs.Bridge.Requests

/-!
# Presses of the buttons

Buttons are pressed and released by calls, by clients and by the viewer (`Move.button`), and by automation
rules in the middle of a packet of the firmware. The bridge tells the firmware each time which of the
two are held down. What is held is told here from the presses and releases alone: a press or release of
both is one of each.

1. `heldMask_concat`: the mask of what is held after one more press or release.
2. `heldEvents_append`: the events of presses and releases, one for each.
3. `presses_carryOutAll`: the outputs of a packet queue the events of the presses among them.
-/

namespace Seph

/-- A press or release of a button is one of the given side. -/
def Button.covers (x side : Button) : Bool := x == side || x == .both

/-- What is done with a button. -/
structure Press where
  button : Button
  pressed : Bool
  deriving DecidableEq, Repr

/-! ## What is held -/

/-- A side is held down if the last press or release of it was a press. -/
def isHeld (side : Button) (ps : List Press) : Bool :=
  (ps.reverse.find? fun p => p.button.covers side).any Press.pressed

/-- One bit for each side that is held down. -/
def heldMask (ps : List Press) : UInt8 :=
  (if isHeld .left ps then 1 else 0) + (if isHeld .right ps then 2 else 0)

/-- The event that tells what is held: twice the mask. -/
def heldEvent (ps : List Press) : Packet := ⟨.buttonPush, [2 * heldMask ps]⟩

/-- The events of further presses and releases: each tells what is held after it. -/
def heldEvents (before ps : List Press) : List Packet :=
  (List.range ps.length).map fun i => heldEvent (before ++ ps.take (i + 1))

section Held

variable (before ps qs : List Press) (p : Press)

theorem isHeld_concat (side : Button) :
    isHeld side (ps ++ [p]) = if p.button.covers side then p.pressed else isHeld side ps := by
  unfold isHeld
  rw [List.reverse_append, List.reverse_singleton, List.singleton_append, List.find?_cons]
  cases p.button.covers side <;> rfl

/-- **One more press or release** changes the bits of its button. -/
theorem heldMask_concat :
    heldMask (ps ++ [p]) = Bridge.pressedAfter (heldMask ps) p.button p.pressed := by
  obtain ⟨x, pressed⟩ := p
  unfold heldMask
  rw [isHeld_concat, isHeld_concat]
  generalize isHeld .left ps = l
  generalize isHeld .right ps = r
  cases x with
  | left | right | both =>
    revert pressed l r
    decide

theorem buttonPush_heldMask : Packet.buttonPush (heldMask ps) = heldEvent ps := by
  unfold Packet.buttonPush heldEvent heldMask
  generalize isHeld .left ps = l
  generalize isHeld .right ps = r
  revert l r
  decide

theorem heldEvents_cons :
    heldEvents before (p :: ps) = heldEvent (before ++ [p]) :: heldEvents (before ++ [p]) ps := by
  unfold heldEvents
  rw [List.length_cons, List.range_succ_eq_map, List.map_cons, List.map_map]
  refine congrArg _ (List.map_congr_left ?_)
  intro i _
  rw [Function.comp_apply, List.take_succ_cons, List.append_assoc]
  rfl

theorem heldEvents_append :
    heldEvents before (ps ++ qs) = heldEvents before ps ++ heldEvents (before ++ ps) qs := by
  induction ps generalizing before with
  | nil => rw [List.append_nil]; rfl
  | cons p ps ih =>
    rw [List.cons_append, heldEvents_cons, heldEvents_cons, ih, List.append_assoc]
    rfl

end Held

/-- The packet tells which buttons are held. -/
def Packet.isPush (p : Packet) : Bool := p.tag == .buttonPush

/-! ## Presses of automation rules -/

/-- The press or release in an output; a mask that no button has is none. -/
def Output.press? : Output → Option Press
  | .action (.button mask pressed) => (Button.ofMask? mask).map (⟨·, pressed⟩)
  | _ => none

namespace Bridge

/-- The presses and releases that a move brings, in order. -/
def presses (b : Bridge) : Move → List Press
  | .button x pressed => [⟨x, pressed⟩]
  | .dispatch p => ((b.heed p).carried (b.outputs p)).filterMap Output.press?
  | .touch _ | .note _ _ _ | .setRules _ | .listen | .requestTick | .forceTick | .pause | .resume
  | .exchange _ _ _ | .startTurn | .transmit | .leave | .expire | .lapse | .send | .close | .clear => []

/-- The presses and releases of a run, in order. -/
def runPresses (b : Bridge) : List Move → List Press
  | [] => []
  | m :: ms => b.presses m ++ runPresses (b.move m) ms

section Outputs

variable {b b' : Bridge} {before : List Press}

theorem pressed_queueTouch {t : Touch} (h : b.queueTouch t = .ok b') : b'.pressed = b.pressed := by
  unfold queueTouch at h
  dsimp only at h
  split at h
  · cases h
  · cases h
    rfl

theorem pressed_tryTouch (b : Bridge) (refused : InputError → Remark) (t : Touch) :
    (b.tryTouch refused t).pressed = b.pressed := by
  unfold tryTouch
  cases h : b.queueTouch t with
  | ok b' => exact pressed_queueTouch h
  | error e => rfl

theorem pressed_deliver (b : Bridge) (response : Bytes) :
    (b.deliver response).pressed = b.pressed := by
  obtain ⟨ns, -, hd⟩ := deliver_eq b response
  rw [hd]
  split <;> rfl

theorem isPush_touchOps (b : Bridge) (t : Touch) :
    ((b.touchOps t).filterMap Pacer.Op.pushed?).filter Packet.isPush = [] := by
  unfold touchOps
  split <;> rfl

/-- One output: a press or release, its event, and what is held after it. -/
theorem presses_carryOut {o : Output} (h : b.carryOut o = .ok b') (hb : b.pressed = heldMask before)
    (ho : ∀ q, o = .event q → q.isPush = false) :
    b'.pressed = heldMask (before ++ o.press?.toList) ∧
      ((b.outputOps o).filterMap Pacer.Op.pushed?).filter Packet.isPush =
        heldEvents before o.press?.toList := by
  have same {c : Bridge} (hp : c.pressed = b.pressed) : c.pressed = heldMask (before ++ []) := by
    rw [List.append_nil, hp, hb]
  cases o with
  | event q =>
    cases h
    refine ⟨same rfl, ?_⟩
    show [q].filter Packet.isPush = []
    rw [List.filter_cons_of_neg (ne_true_of_eq_false (ho q rfl)), List.filter_nil]
  | reply p =>
    rw [carryOut_reply] at h
    cases hr : b.pacer.reply p with
    | error e => rw [hr] at h; cases h
    | ok s => rw [hr] at h; cases h; exact ⟨same rfl, rfl⟩
  | statusReceived =>
    rw [carryOut_statusReceived] at h
    cases hr : b.pacer.statusReceived with
    | error e => rw [hr] at h; cases h
    | ok s => rw [hr] at h; cases h; exact ⟨same rfl, rfl⟩
  | apdu bs => cases h; exact ⟨same (pressed_deliver b bs), rfl⟩
  | text | screen | exit => cases h; exact ⟨same rfl, rfl⟩
  | action a =>
    cases h
    cases a with
    | button mask pressed =>
      simp only [perform, outputOps, actionOps, Output.press?]
      cases hm : Button.ofMask? mask with
      | none => exact ⟨same rfl, rfl⟩
      | some x =>
        have hx : pressedAfter b.pressed x pressed = heldMask (before ++ [⟨x, pressed⟩]) := by
          rw [heldMask_concat, hb]
        refine ⟨hx, ?_⟩
        show [Packet.buttonPush (pressedAfter b.pressed x pressed)].filter Packet.isPush = _
        rw [hx, buttonPush_heldMask]
        rfl
    | finger x y pressed => exact ⟨same (pressed_tryTouch b _ _), isPush_touchOps b _⟩
    | setBool | exit => exact ⟨same rfl, rfl⟩

theorem isPush_outputOps_of_error {o : Output} {e : PacingError} (h : b.carryOut o = .error e) :
    ((b.outputOps o).filterMap Pacer.Op.pushed?).filter Packet.isPush = [] := by
  cases o with
  | reply | statusReceived => rfl
  | event | apdu | text | action | screen | exit => cases h

/-- **The outputs of a packet queue the events of the presses among them**, up to the first output that
is refused. -/
theorem presses_carryOutAll {os : List Output} (hb : b.pressed = heldMask before)
    (ho : ∀ q, .event q ∈ os → q.isPush = false) :
    (b.carryOutAll os).2.pressed = heldMask (before ++ (b.carried os).filterMap Output.press?) ∧
      ((b.carryOps os).filterMap Pacer.Op.pushed?).filter Packet.isPush =
        heldEvents before ((b.carried os).filterMap Output.press?) := by
  induction os generalizing b before with
  | nil =>
    refine ⟨?_, rfl⟩
    show b.pressed = heldMask (before ++ [])
    rw [List.append_nil, hb]
  | cons o os ih =>
    unfold carryOutAll carryOps carried
    cases h : b.carryOut o with
    | error e =>
      dsimp only
      rw [List.append_nil, isPush_outputOps_of_error h, List.filterMap_nil, List.append_nil]
      exact ⟨hb, rfl⟩
    | ok b' =>
      obtain ⟨hp, he⟩ := presses_carryOut h hb fun q hq => ho q (hq ▸ List.mem_cons_self)
      obtain ⟨ihp, ihe⟩ := ih hp fun q hq => ho q (List.mem_cons_of_mem _ hq)
      have hsplit : (o :: b'.carried os).filterMap Output.press? =
          o.press?.toList ++ (b'.carried os).filterMap Output.press? := by
        rw [List.filterMap_cons]
        cases o.press? <;> rfl
      dsimp only
      rw [hsplit, List.filterMap_append, List.filter_append, he, ihe, ihp, heldEvents_append,
        List.append_assoc]
      exact ⟨rfl, rfl⟩

end Outputs

end Bridge
end Seph
