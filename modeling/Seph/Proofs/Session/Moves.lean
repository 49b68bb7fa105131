import Seph.Proofs.Bridge.Run
import Seph.Proofs.Packet.Stream
import Seph.Session.Input

/-!
# Sessions move their bridge

A session changes its bridge by moves only, so what holds along every run of a bridge holds in every
session.

1. `Bridge.Reaches`: some run leads from one bridge to another; `Bridge.ReachesBy`: a run of moves of one
   kind does.
2. The parts of a session, from a client that reads a line to everything that goes on
   (`settle_reaches`), each lead from the bridge they find to the one they leave. Exchanges are ended by
   `serve` alone, and a client asks for exchanges of its own only and is sent something only by itself
   (`Move.Apart`).
3. `fits_after`: so does a session from its start on, whatever comes to it, and it handles no packets but
   those that can be taken off a stream.
-/

namespace Seph
namespace Bridge

/-- Some run leads from one bridge to another. -/
def Reaches (b b' : Bridge) : Prop := ∃ ms, b' = b.run ms

/-- A run of moves of one kind leads from one bridge to another. -/
def ReachesBy (P : Move → Prop) (b b' : Bridge) : Prop := ∃ ms, (∀ m ∈ ms, P m) ∧ b' = b.run ms

namespace ReachesBy

variable {P Q : Move → Prop} {a b c : Bridge}

theorem refl (b : Bridge) : ReachesBy P b b := ⟨[], List.forall_mem_nil _, rfl⟩

theorem trans (h : ReachesBy P a b) (g : ReachesBy P b c) : ReachesBy P a c := by
  obtain ⟨ms, hm, rfl⟩ := h
  obtain ⟨ns, hn, rfl⟩ := g
  exact ⟨ms ++ ns, List.forall_mem_append.2 ⟨hm, hn⟩, (run_append a ms ns).symm⟩

theorem step (b : Bridge) {m : Move} (hm : P m) : ReachesBy P b (b.move m) :=
  ⟨[m], List.forall_mem_singleton.2 hm, rfl⟩

theorem foldl {α : Type} {f : Bridge → α → Bridge} (hf : ∀ b x, ReachesBy P b (f b x)) (b : Bridge)
    (xs : List α) : ReachesBy P b (xs.foldl f b) := by
  induction xs generalizing b with
  | nil => exact .refl b
  | cons x xs ih => exact (hf b x).trans (ih _)

theorem foldl_snd {α β : Type} {f : β × Bridge → α → β × Bridge}
    (hf : ∀ r x, ReachesBy P r.2 (f r x).2) (r : β × Bridge) (xs : List α) :
    ReachesBy P r.2 (xs.foldl f r).2 := by
  induction xs generalizing r with
  | nil => exact .refl r.2
  | cons x xs ih => exact (hf r x).trans (ih _)

theorem mono (h : ReachesBy P a b) (hpq : ∀ m, P m → Q m) : ReachesBy Q a b := by
  obtain ⟨ms, hm, hr⟩ := h
  exact ⟨ms, fun m h => hpq m (hm m h), hr⟩

theorem reaches (h : ReachesBy P a b) : Reaches a b := by
  obtain ⟨ms, -, hr⟩ := h
  exact ⟨ms, hr⟩

end ReachesBy

/-! ## Kinds of moves -/

/-- An exchange goes on. -/
def Move.Serves : Move → Prop
  | .startTurn | .transmit | .leave | .expire => True
  | _ => False

/-- The move ends no exchange, and neither asks for an exchange of certain clients nor sends anything to
one of them. A packet that is handled can be taken off a stream. -/
def Move.Apart (mine : String → Prop) : Move → Prop
  | .startTurn | .leave => False
  | .exchange (.client name) _ _ => ¬ mine name
  | .note (.answered name _) _ _ => ¬ mine name
  | .dispatch p => p.payload.length ≤ Packet.maxPayload
  | _ => True

/-- A packet that is handled can be taken off a stream. -/
def Move.Fits : Move → Prop
  | .dispatch p => p.payload.length ≤ Packet.maxPayload
  | _ => True

theorem Move.Serves.fits {m : Move} (h : m.Serves) : m.Fits := by
  cases m <;> trivial

theorem Move.Apart.fits {mine : String → Prop} {m : Move} (h : m.Apart mine) : m.Fits := by
  cases m <;> trivial

variable {mine : String → Prop}

/-! ## The bridge by itself -/

theorem reaches_remark (b : Bridge) (r : Remark) : ReachesBy (Move.Apart mine) b (b.remark r) :=
  .step (m := .note (.remark r) rfl rfl) b trivial

theorem reaches_queueTouch {b b' : Bridge} {t : Touch} (h : b.queueTouch t = .ok b') :
    ReachesBy (Move.Apart mine) b b' := by
  have hm : b.move (.touch t) = b' := by simp only [move, h]
  exact hm ▸ .step b trivial

theorem reaches_tryTouch (b : Bridge) (refused : InputError → Remark) (t : Touch) :
    ReachesBy (Move.Apart mine) b (b.tryTouch refused t) := by
  unfold tryTouch
  cases h : b.queueTouch t with
  | ok b' => exact reaches_queueTouch h
  | error e => exact reaches_remark b _

theorem reaches_setRules {files : String → Option String} {origin : Origin} {doc : Option String}
    {b b' : Bridge} (h : b.setRules files origin doc = .ok b') : ReachesBy (Move.Apart mine) b b' := by
  unfold setRules at h
  split at h
  · cases h
    exact .step (m := .setRules none) b trivial
  · split at h
    · cases h
    · rename_i a _
      cases h
      exact .step (m := .setRules (some a)) b trivial

theorem reaches_dispatchAll (b : Bridge) {ps : List Packet}
    (hps : ∀ p ∈ ps, p.payload.length ≤ Packet.maxPayload) :
    ReachesBy (Move.Apart mine) b (b.dispatchAll ps).2 := by
  induction ps generalizing b with
  | nil => exact .refl b
  | cons p ps ih =>
    obtain ⟨hp, hps⟩ := List.forall_mem_cons.1 hps
    have hd : ReachesBy (Move.Apart mine) b (b.dispatch p).2 := .step (m := .dispatch p) b hp
    unfold dispatchAll
    generalize b.dispatch p = r at hd
    obtain ⟨e | _ | _, b'⟩ := r
    · exact hd
    · exact hd
    · exact hd.trans (ih b' hps)

theorem reaches_serve (n : Nat) (b : Bridge) : ReachesBy Move.Serves b (b.serve n) := by
  -- a round is four moves; another follows only after a turn has begun
  have hround (b : Bridge) : ReachesBy Move.Serves b b.transmit.leave.expire.leave := by
    refine ⟨[.transmit, .leave, .expire, .leave], ?_, rfl⟩
    simp [Move.Serves]
  induction n generalizing b with
  | zero => exact hround b
  | succ n ih =>
    have hstart (b : Bridge) : ReachesBy Move.Serves b b.startTurn := .step (m := .startTurn) b trivial
    simp only [serve]
    split
    · exact hround b
    · exact (hround b).trans ((hstart _).trans (ih _))

/-- Closing comes before clearing, which by itself would do nothing. -/
theorem reaches_clear_close (b : Bridge) : ReachesBy (Move.Apart mine) b b.close.clear := by
  refine ⟨[.close, .clear], ?_, rfl⟩
  simp [Move.Apart]

end Bridge

open Bridge (Reaches ReachesBy Move)

variable {mine : String → Prop}

/-! ## Clients and calls -/

namespace Client

theorem reaches_hangUp (c : Client) (b : Bridge) : ReachesBy (Move.Apart mine) b (c.hangUp b).2 :=
  .step (m := .note (.hungUp c.name) rfl rfl) b trivial

theorem reaches_readOut (c : Client) (rest : Bytes) (b : Bridge) :
    ReachesBy (Move.Apart mine) b (c.readOut rest b).2 := by
  unfold readOut
  split
  · exact c.reaches_hangUp b
  · exact .refl b

theorem reaches_readLine (line : String) (b : Bridge) :
    ReachesBy (Move.Apart mine) b (readLine line b) := by
  unfold readLine
  split
  · exact .refl b
  · split
    · exact Bridge.reaches_remark b _
    · exact .foldl (fun b t => Bridge.reaches_tryTouch b .finger t) b _

theorem reaches_readLines (ls : List Bytes) (b : Bridge) :
    ReachesBy (Move.Apart mine) b (readLines ls b).2 := by
  induction ls generalizing b with
  | nil => exact .refl b
  | cons l ls ih =>
    unfold readLines
    split
    · exact .refl b
    · rename_i line _
      exact (reaches_readLine line b).trans (ih _)

theorem reaches_readFinger (c : Client) (ls : List Bytes) (rest : Bytes) (b : Bridge) :
    ReachesBy (Move.Apart mine) b (if (readLines ls b).1 then c.readOut rest (readLines ls b).2
      else c.hangUp (readLines ls b).2).2 := by
  refine (reaches_readLines ls b).trans ?_
  split
  · exact c.reaches_readOut rest _
  · exact c.reaches_hangUp _

theorem reaches_buttons (c : Client) (b : Bridge) : ReachesBy (Move.Apart mine) b
    ((ButtonChannel.commands c.unread).foldl (fun b (x, p) => b.queueButton x p) b) :=
  .foldl (fun b (x : Button × Bool) => .step (m := .button x.1 x.2) b trivial) b _

theorem reaches_read {c : Client} (hc : ¬ mine c.name) (b : Bridge) :
    ReachesBy (Move.Apart mine) b (c.read b).2 := by
  unfold read
  split
  · exact .refl b
  · split
    · exact (c.reaches_buttons b).trans (c.reaches_readOut _ _)
    · exact c.reaches_readFinger _ _ b
    · split
      · exact .refl b
      · split
        · exact c.reaches_readOut _ b
        · exact c.reaches_hangUp b
        · rename_i apdu _ _
          exact .step (m := .exchange (.client c.name) apdu b.timeout) b hc

theorem reaches_settled {c : Client} (hc : ¬ mine c.name) (result : Except BridgeError Bytes)
    (b : Bridge) : ReachesBy (Move.Apart mine) b (c.settled result b).2 := by
  unfold settled
  split
  · exact .refl b
  · split
    · exact c.reaches_hangUp b
    · rename_i response
      exact .step (m := .note (.answered c.name (ApduChannel.encodeResponse response)) rfl rfl) b hc

theorem name_settled (c : Client) (result : Except BridgeError Bytes) (b : Bridge) :
    (c.settled result b).1.name = c.name := by
  unfold settled
  split
  · rfl
  · split <;> rfl

theorem name_foldl_settled (rs : List (Except BridgeError Bytes)) (c : Client) (b : Bridge) :
    (rs.foldl (fun (c, b) x => c.settled x b) (c, b)).1.name = c.name := by
  induction rs generalizing c b with
  | nil => rfl
  | cons x rs ih => exact (ih _ _).trans (c.name_settled x b)

theorem reaches_foldl_settled {c : Client} (hc : ¬ mine c.name) (rs : List (Except BridgeError Bytes))
    (b : Bridge) :
    ReachesBy (Move.Apart mine) b (rs.foldl (fun (c, b) x => c.settled x b) (c, b)).2 := by
  induction rs generalizing c b with
  | nil => exact .refl b
  | cons x rs ih =>
    have hn : ¬ mine (c.settled x b).1.name := (c.name_settled x b).symm ▸ hc
    exact (reaches_settled hc x b).trans (ih hn _)

theorem reaches_goOn {c : Client} (hc : ¬ mine c.name) (seen : List Notice) (b : Bridge) :
    ReachesBy (Move.Apart mine) b (c.goOn seen b).2 :=
  (reaches_foldl_settled hc _ b).trans
    (reaches_read ((c.name_foldl_settled (seen.filterMap c.result?) b).symm ▸ hc) _)

end Client

theorem Call.reaches_conclude (c : Call) (b : Bridge) :
    ReachesBy (Move.Apart mine) b (c.conclude b) := by
  cases c with
  | release button due => exact .step (m := .button button false) b trivial
  | pause | tick => exact .refl b

/-! ## The session -/

/-- The input has to do with the clients. -/
def Input.isOfClients : Input → Bool
  | .connect _ _ | .client _ _ | .clientEnd _ => true
  | _ => false

namespace Session

theorem reaches_finish (s : Session) (result : Except BridgeError Unit) :
    ReachesBy (Move.Apart mine) s.bridge (s.finish result).bridge :=
  s.bridge.reaches_clear_close.trans (.step (m := .note (.ended result) rfl rfl) _ trivial)

theorem reaches_display (s : Session) (seen : List Notice) :
    ReachesBy (Move.Apart mine) s.bridge (s.display seen).bridge := by
  unfold display
  split
  · exact .refl _
  · have hshown (b : Bridge) (ps : Array Pixel) :
        ReachesBy (Move.Apart mine) b (b.notify (.shown (ps.toList.flatMap Viewer.encodePixel))) :=
      .step (m := .note _ rfl rfl) b trivial
    refine ReachesBy.trans ?_ (.foldl hshown _ _)
    split
    · exact .refl _
    · exact Bridge.reaches_remark _ _

theorem reaches_receive (s : Session) : ReachesBy (Move.Apart mine) s.bridge s.receive.bridge := by
  unfold receive
  split
  · exact .refl _
  · have hd : ReachesBy (Move.Apart mine) s.bridge
        (s.bridge.dispatchAll (Packet.stream.takeAll s.unread).1).2 :=
      s.bridge.reaches_dispatchAll fun p hp => Packet.le_maxPayload_of_mem_takeAll hp
    dsimp only
    split
    · exact hd.trans (reaches_display _ _)
    · exact (hd.trans (reaches_display _ _)).trans (reaches_finish _ _)

theorem reaches_send (s : Session) : ReachesBy (Move.Apart mine) s.bridge s.send.bridge := by
  have hs : ReachesBy (Move.Apart mine) s.bridge s.bridge.send.2 := .step (m := .send) s.bridge trivial
  unfold send
  split
  · exact .refl _
  · split
    · rename_i h
      rw [h] at hs
      exact hs
    · rename_i h
      rw [h] at hs
      exact hs.trans (reaches_finish _ _)

/-- Clients go on one after the other. -/
def goOnAll (seen : List Notice) : List Client → Bridge → List Client × Bridge
  | [], b => ([], b)
  | c :: cs, b =>
    ((c.goOn seen b).1 :: (goOnAll seen cs (c.goOn seen b).2).1, (goOnAll seen cs (c.goOn seen b).2).2)

theorem readClients_eq (s : Session) (seen : List Notice) :
    s.readClients seen = { s with
      clients := (goOnAll seen s.clients s.bridge).1
      bridge := (goOnAll seen s.clients s.bridge).2 } := by
  have hfold (cs done : List Client) (b : Bridge) :
      cs.foldl (fun r c => ((c.goOn seen r.2).1 :: r.1, (c.goOn seen r.2).2)) (done, b) =
        ((goOnAll seen cs b).1.reverse ++ done, (goOnAll seen cs b).2) := by
    induction cs generalizing done b with
    | nil => rfl
    | cons c cs ih =>
      rw [List.foldl_cons, ih, goOnAll, List.reverse_cons, List.append_assoc]
      rfl
  unfold readClients
  dsimp only
  rw [hfold, List.append_nil, List.reverse_reverse]

theorem reaches_goOnAll {cs : List Client} (hcs : ∀ c ∈ cs, ¬ mine c.name) (seen : List Notice)
    (b : Bridge) : ReachesBy (Move.Apart mine) b (goOnAll seen cs b).2 := by
  induction cs generalizing b with
  | nil => exact .refl b
  | cons c cs ih =>
    obtain ⟨hc, hcs⟩ := List.forall_mem_cons.1 hcs
    exact (c.reaches_goOn hc seen b).trans (ih hcs _)

theorem reaches_readClients {s : Session} (hs : ∀ c ∈ s.clients, ¬ mine c.name) (seen : List Notice) :
    ReachesBy (Move.Apart mine) s.bridge (s.readClients seen).bridge := by
  rw [readClients_eq]
  exact reaches_goOnAll hs seen s.bridge

theorem reaches_endCalls (s : Session) : ReachesBy (Move.Apart mine) s.bridge s.endCalls.bridge := by
  refine .foldl_snd (fun r x => ?_) ([], s.bridge) s.calls
  obtain ⟨calls, b⟩ := r
  obtain ⟨name, call⟩ := x
  dsimp only
  split
  · exact .refl b
  · rename_i r _
    exact (call.reaches_conclude b).trans (.step (m := .note (.finished name r) rfl rfl) _ trivial)

theorem reaches_forward (b : Bridge) (r : Except InputError Viewer.Input) :
    ReachesBy (Move.Apart mine) b (forward b r) := by
  match r with
  | .ok (.pointer x y pressed) => exact b.reaches_tryTouch .viewerInput ⟨x, y, pressed⟩
  | .ok (.button x pressed) => exact .step (m := .button x pressed) b trivial
  | .error e => exact b.reaches_remark (.viewerInput e)

/-- What an input does at once that has nothing to do with the clients. -/
theorem reaches_take (files : String → Option String) (s : Session) {i : Input}
    (hi : i.isOfClients = false) :
    ReachesBy (Move.Apart mine) s.bridge (s.take files i).2.bridge ∧
      (s.take files i).2.clients = s.clients := by
  have hattempt {r : Except InputError Bridge}
      (h : ∀ b, r = .ok b → ReachesBy (Move.Apart mine) s.bridge b) :
      ReachesBy (Move.Apart mine) s.bridge (s.attempt r).2.bridge ∧
        (s.attempt r).2.clients = s.clients := by
    cases r with
    | ok b => exact ⟨h b rfl, rfl⟩
    | error e => exact ⟨.refl _, rfl⟩
  cases i with
  | firmware bs =>
    simp only [take]
    split <;> exact ⟨.refl _, rfl⟩
  | button x pressed => exact ⟨.step (m := .button x pressed) _ trivial, rfl⟩
  | touch t => exact hattempt fun b => Bridge.reaches_queueTouch
  | rules origin doc => exact hattempt fun b => Bridge.reaches_setRules
  | resume => exact ⟨.step (m := .resume) _ trivial, rfl⟩
  | period =>
    simp only [take]
    split
    · exact ⟨.refl _, rfl⟩
    · exact ⟨.step (m := .requestTick) _ trivial, rfl⟩
  | exchange name apdu limit => exact ⟨.step (m := .exchange (.call name) apdu limit) _ trivial, rfl⟩
  | pause => exact ⟨.step (m := .pause) _ trivial, rfl⟩
  | tick => exact ⟨.step (m := .forceTick) _ trivial, rfl⟩
  | press name x delay => exact ⟨.step (m := .button x true) _ trivial, rfl⟩
  | viewer bs =>
    simp only [take]
    split
    · exact ⟨.refl _, rfl⟩
    · exact ⟨.foldl reaches_forward _ _, rfl⟩
  | viewerEnd =>
    simp only [take]
    split
    · exact ⟨.refl _, rfl⟩
    · exact ⟨(Bridge.reaches_remark _ _).trans
        (.step (m := .note (.viewerClosed .peerGone) rfl rfl) _ trivial), rfl⟩
  | firmwareEnd => exact ⟨.refl _, rfl⟩
  | connect | client | clientEnd => cases hi

/-! ## Everything that goes on -/

theorem fits_readClients (s : Session) (seen : List Notice) :
    ReachesBy Move.Fits s.bridge (s.readClients seen).bridge := by
  have apart : ReachesBy (Move.Apart fun _ => False) s.bridge (s.readClients seen).bridge :=
    reaches_readClients (fun _ _ => id) seen
  exact apart.mono fun _ => Move.Apart.fits

theorem fits_serve (n : Nat) (s : Session) : ReachesBy Move.Fits s.bridge (s.serve n).bridge := by
  have hround (s : Session) : ReachesBy Move.Fits s.bridge
      ((s.withBridge s.bridge.serveAll).readClients
        (seenSince s.bridge.notices.length s.bridge.serveAll)).bridge :=
    ((Bridge.reaches_serve _ s.bridge).mono fun _ => Move.Serves.fits).trans (fits_readClients _ _)
  induction n generalizing s with
  | zero => exact hround s
  | succ n ih =>
    simp only [serve]
    split
    · exact (hround s).trans (ih _)
    · exact hround s

/-- Everything that goes on by itself is a run of the bridge. -/
theorem fits_settle (s : Session) : ReachesBy Move.Fits s.bridge s.settle.bridge := by
  have apart {b b' : Bridge} (h : ReachesBy (Move.Apart fun _ => False) b b') :
      ReachesBy Move.Fits b b' := h.mono fun _ => Move.Apart.fits
  exact (apart s.reaches_receive).trans <| (apart (reaches_endCalls _)).trans <|
    (apart (reaches_send _)).trans <| (fits_serve _ _).trans <| (apart (reaches_send _)).trans <|
    apart (reaches_endCalls _)

theorem fits_take (files : String → Option String) (s : Session) (i : Input) :
    ReachesBy Move.Fits s.bridge (s.take files i).2.bridge := by
  cases hi : i.isOfClients with
  | false =>
    have apart : ReachesBy (Move.Apart fun _ => False) s.bridge (s.take files i).2.bridge :=
      (reaches_take files s hi).1
    exact apart.mono fun _ => Move.Apart.fits
  | true =>
    cases i with
    | connect => exact .refl _
    | client | clientEnd => exact fits_readClients _ []
    | firmware | firmwareEnd | button | touch | rules | resume | period | exchange | pause | tick | press
      | viewer | viewerEnd => cases hi

theorem fits_step (files : String → Option String) (s : Session) (i : Input) :
    ReachesBy Move.Fits s.bridge (s.step files i).2.bridge :=
  (fits_take files s i).trans (fits_settle _)

theorem fits_start (b : Bridge) (period : Nat) (viewer : Bool) :
    ReachesBy Move.Fits b (start b period viewer).bridge :=
  (ReachesBy.step (m := .requestTick) b trivial).trans (fits_settle _)

def after (files : String → Option String) (s : Session) (is : List Input) : Session :=
  is.foldl (fun s i => (s.step files i).2) s

/-- A session is a run of the bridge that it starts with, and handles no packets but those that can be
taken off a stream. -/
theorem fits_after (files : String → Option String) (b : Bridge) (period : Nat) (viewer : Bool)
    (is : List Input) : ReachesBy Move.Fits b ((start b period viewer).after files is).bridge := by
  have hrun (s : Session) : ReachesBy Move.Fits s.bridge (s.after files is).bridge := by
    induction is generalizing s with
    | nil => exact .refl _
    | cons i is ih => exact (fits_step files s i).trans (ih _)
  exact (fits_start b period viewer).trans (hrun _)

/-- **A session is a run of the bridge that it starts with.** -/
theorem reaches_after (files : String → Option String) (b : Bridge) (period : Nat) (viewer : Bool)
    (is : List Input) : Reaches b ((start b period viewer).after files is).bridge :=
  (fits_after files b period viewer is).reaches

end Session
end Seph
