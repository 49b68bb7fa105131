import Seph.Proofs.Exchange.Run
import Seph.Proofs.Lists

/-!
# Who gets which response

Responses are not marked with the request that they answer; an exchange takes the first one that comes
in its turn. So which one it gets depends on how many requests and how many responses there were when
its turn began.

1. `response_of_settled`: an exchange that ends with a response has sent its request in its turn, as
   the first one, and the response is the first one that came in its turn.
2. `length_asked_le`: until the session closes, requests outnumber responses at most by the exchanges
   that ended because time was up, and by the one that waits for a response.
-/

namespace Seph

namespace Desk

/-- The exchange whose request goes out. -/
def Event.asked? : Event → Option Exchange
  | .asked x => some x
  | _ => none

def Event.answer? : Event → Option Bytes
  | .answered bs => some bs
  | _ => none

def Event.settled? : Event → Option Settled
  | .settled s => some s
  | _ => none

/-- An exchange ends because time is up. -/
def Event.isTimeout : Event → Bool
  | .settled ⟨_, .error .timeout⟩ => true
  | _ => false

/-- The exchanges whose requests go out, in order. -/
def asked (t : List Event) : List Exchange := t.filterMap Event.asked?

def answers (t : List Event) : List Bytes := t.filterMap Event.answer?

def settled (t : List Event) : List Settled := t.filterMap Event.settled?

@[simp] theorem asked_append (t u : List Event) : asked (t ++ u) = asked t ++ asked u :=
  List.filterMap_append

@[simp] theorem answers_append (t u : List Event) : answers (t ++ u) = answers t ++ answers u :=
  List.filterMap_append

@[simp] theorem settled_append (t u : List Event) : settled (t ++ u) = settled t ++ settled u :=
  List.filterMap_append

theorem mem_settled {t : List Event} {s : Settled} : s ∈ settled t ↔ .settled s ∈ t := by
  constructor
  · intro h
    obtain ⟨e, he, hs⟩ := List.mem_filterMap.1 h
    cases e with
    | settled s' => cases hs; exact he
    | begun | asked | answered => cases hs
  · intro h
    exact List.mem_filterMap.2 ⟨_, h, rfl⟩

/-! ## In a turn -/

/-- What has been seen since the turn of an exchange began agrees with how far it has got. -/
structure InTurn (t : List Event) (x : Exchange) (p : Progress) (rc : Receipt) : Prop where
  installed : p = .installed → asked t = []
  sent : ∀ deadline, p = .sent deadline → asked t = [x]
  nothing : rc = .nothing → answers t = []
  response : ∀ bs, rc = .response bs → (answers t).head? = some bs

/-- An exchange has sent its request in its turn, and this is the first response that came. -/
structure Served (t : List Event) (x : Exchange) (bs : Bytes) : Prop where
  asked : (asked t).head? = some x
  answer : (answers t).head? = some bs

namespace InTurn

variable {t : List Event} {x : Exchange} {p : Progress} {rc : Receipt}

theorem start (x : Exchange) : InTurn [] x .installed .nothing where
  installed _ := rfl
  sent _ h := by cases h
  nothing _ := rfl
  response _ h := by cases h

theorem ask (h : InTurn t x .installed rc) (deadline : Option Nat) :
    InTurn (t ++ [.asked x]) x (.sent deadline) rc where
  installed h' := by cases h'
  sent _ _ := by rw [asked_append, h.installed rfl]; rfl
  nothing h' := by rw [answers_append, h.nothing h']; rfl
  response bs h' := by rw [answers_append]; exact head?_append_of_some (h.response bs h')

theorem failing (h : InTurn t x p rc) (e : BridgeError) : InTurn t x (.failing e) rc where
  installed h' := by cases h'
  sent _ h' := by cases h'
  nothing := h.nothing
  response := h.response

theorem take (h : InTurn t x p .nothing) (bs : Bytes) :
    InTurn (t ++ [.answered bs]) x p (.response bs) where
  installed h' := by rw [asked_append, h.installed h']; rfl
  sent deadline h' := by rw [asked_append, h.sent deadline h']; rfl
  nothing h' := by cases h'
  response bs' h' := by cases h'; rw [answers_append, h.nothing rfl]; rfl

theorem miss (h : InTurn t x p rc) (hr : rc ≠ .nothing) (bs : Bytes) :
    InTurn (t ++ [.answered bs]) x p rc where
  installed h' := by rw [asked_append, h.installed h']; rfl
  sent deadline h' := by rw [asked_append, h.sent deadline h']; rfl
  nothing h' := absurd h' hr
  response bs' h' := by rw [answers_append]; exact head?_append_of_some (h.response bs' h')

theorem drop (h : InTurn t x p .nothing) : InTurn t x p .dropped where
  installed := h.installed
  sent := h.sent
  nothing h' := by cases h'
  response _ h' := by cases h'

theorem served {deadline : Option Nat} {bs : Bytes}
    (h : InTurn t x (.sent deadline) (.response bs)) : Served t x bs where
  asked := by rw [h.sent deadline rfl]; rfl
  answer := h.response bs rfl

end InTurn

theorem Served.append {t : List Event} {x : Exchange} {bs : Bytes} (h : Served t x bs)
    (u : List Event) : Served (t ++ u) x bs where
  asked := by rw [asked_append]; exact head?_append_of_some h.asked
  answer := by rw [answers_append]; exact head?_append_of_some h.answer

/-! ## From turn to turn -/

/-- The turn of an exchange began, and what has been seen since is so. -/
def Since (x : Exchange) (P : List Event → Prop) (t : List Event) : Prop :=
  ∃ t₁ t₂, t = t₁ ++ .begun x :: t₂ ∧ P t₂

theorem Since.append {x : Exchange} {P Q : List Event → Prop} {t u : List Event} (h : Since x P t)
    (hq : ∀ t, P t → Q (t ++ u)) : Since x Q (t ++ u) := by
  obtain ⟨t₁, t₂, rfl, hp⟩ := h
  exact ⟨t₁, t₂ ++ u, by rw [List.append_assoc, List.cons_append], hq t₂ hp⟩

theorem Since.imp {x : Exchange} {P Q : List Event → Prop} {t : List Event} (h : Since x P t)
    (hq : ∀ t, P t → Q t) : Since x Q t := by
  obtain ⟨t₁, t₂, ht, hp⟩ := h
  exact ⟨t₁, t₂, ht, hq t₂ hp⟩

/-- The turn of every exchange that is in its turn, or has ended with a response, began. -/
structure Course (t : List Event) (d : Desk) : Prop where
  turn : ∀ x p rc, d.turn = some ⟨x, p, rc⟩ → Since x (InTurn · x p rc) t
  served : ∀ x bs, .settled ⟨x, .ok bs⟩ ∈ t → Since x (Served · x bs) t

theorem Course.start : Course [] {} := ⟨by simp, by simp⟩

/-- What is seen next, if it is not the end of an exchange with a response, keeps those that ended. -/
theorem Course.served_append {t u : List Event} {d : Desk} (h : Course t d)
    (hu : ∀ x bs, .settled ⟨x, .ok bs⟩ ∉ u) (x : Exchange) (bs : Bytes)
    (hm : .settled ⟨x, .ok bs⟩ ∈ t ++ u) : Since x (Served · x bs) (t ++ u) := by
  rcases List.mem_append.1 hm with hm | hm
  · exact (h.served x bs hm).append fun _ hs => hs.append u
  · exact absurd hm (hu x bs)

theorem Course.step {t : List Event} {d d' : Desk} {o : Op} {e : Option Event} (h : Course t d)
    (hr : Rule d o e d') : Course (t ++ e.toList) d' := by
  cases hr with
  | idle => rwa [Option.toList_none, List.append_nil]
  | enter => rw [Option.toList_none, List.append_nil]; exact ⟨h.turn, h.served⟩
  | begin turn waiting =>
    refine ⟨fun x p rc ht => ?_, h.served_append (by simp)⟩
    cases ht
    exact ⟨t, [], rfl, .start _⟩
  | refuse turn waiting =>
    refine ⟨fun x p rc ht => ?_, h.served_append (by simp)⟩
    rw [turn] at ht
    cases ht
  | ask turn deadline =>
    refine ⟨fun x p rc ht => ?_, h.served_append (by simp)⟩
    cases ht
    exact (h.turn _ _ _ turn).append fun _ hi => hi.ask deadline
  | fail turn e | timeout turn | vain turn | dropped turn =>
    rw [Option.toList_none, List.append_nil]
    refine ⟨fun x p rc ht => ?_, h.served⟩
    cases ht
    exact (h.turn _ _ _ turn).imp fun _ hi => hi.failing _
  | take turn bs =>
    refine ⟨fun x p rc ht => ?_, h.served_append (by simp)⟩
    cases ht
    exact (h.turn _ _ _ turn).append fun _ hi => hi.take bs
  | miss ticket bs =>
    refine ⟨fun x p rc ht => ?_, h.served_append (by simp)⟩
    refine (h.turn x p rc ht).append fun _ hi => hi.miss ?_ bs
    rintro rfl
    rw [ht] at ticket
    cases ticket
  | drop turn =>
    rw [Option.toList_none, List.append_nil]
    refine ⟨fun x p rc ht => ?_, h.served⟩
    cases ht
    exact (h.turn _ _ _ turn).imp fun _ hi => hi.drop
  | serve turn =>
    refine ⟨fun x p rc ht => (by cases ht), fun x bs hm => ?_⟩
    rcases List.mem_append.1 hm with hm | hm
    · exact (h.served x bs hm).append fun _ hs => hs.append _
    · cases List.mem_singleton.1 hm
      exact (h.turn _ _ _ turn).append fun _ hi => hi.served.append _
  | giveUp turn => exact ⟨fun x p rc ht => (by cases ht), h.served_append (by simp)⟩

theorem sound_start : Sound {} := rfl

/-- **An exchange gets the first response of its turn.** -/
theorem response_of_settled {os : List Op} {x : Exchange} {bs : Bytes}
    (h : .settled ⟨x, .ok bs⟩ ∈ trace {} os) :
    ∃ t₁ t₂, trace {} os = t₁ ++ .begun x :: t₂ ∧
      (asked (trace {} os))[(asked t₁).length]? = some x ∧
      (answers (trace {} os))[(answers t₁).length]? = some bs := by
  have hc : Course ([] ++ trace {} os) (after {} os) :=
    run_induction sound_start .start os fun _ _ _ _ _ _ _ hr hc => hc.step hr
  obtain ⟨t₁, t₂, ht, hs⟩ := hc.served x bs (by rwa [List.nil_append])
  rw [List.nil_append] at ht
  refine ⟨t₁, t₂, ht, ?_, ?_⟩
  · rw [ht, asked_append, getElem?_length_append]
    exact hs.asked
  · rw [ht, answers_append, getElem?_length_append]
    exact hs.answer

/-! ## Requests and responses -/

/-- The operation does not come from a session that closes. -/
def Op.Open : Op → Prop
  | .start closed => closed = false
  | .clear => False
  | .expire wait | .lapse wait => ∀ n, wait n ≠ .vain
  | .enter _ _ _ | .ask _ | .deliver _ | .leave => True

/-- The responses that are still to come when an exchange has got this far. -/
def owing : Progress → Receipt → Nat
  | .sent _, .nothing | .failing .timeout, .nothing => 1
  | _, _ => 0

/-- The responses that came before their request when an exchange has got this far. -/
def early : Progress → Receipt → Nat
  | .installed, .response _ => 1
  | _, _ => 0

/-- So many requests are not ahead of what came of them, except for what is owed in the turn. -/
def Balanced (requests outcomes : Nat) : Option Turn → Prop
  | none => requests ≤ outcomes
  | some ⟨_, p, rc⟩ => rc ≠ .dropped ∧ requests + early p rc ≤ outcomes + owing p rc

/-- What comes of requests: responses, and exchanges that end because time is up. -/
def outcomes (t : List Event) : Nat := (answers t).length + t.countP Event.isTimeout

theorem Balanced.mono {k n m : Nat} {t : Option Turn} (h : Balanced k n t) (hm : n ≤ m) :
    Balanced k m t := by
  obtain _ | ⟨x, p, rc⟩ := t
  · exact Nat.le_trans h hm
  · exact ⟨h.1, Nat.le_trans h.2 (Nat.add_le_add_right hm _)⟩

theorem owing_le (p : Progress) (rc : Receipt) : owing p rc ≤ 1 := by
  unfold owing
  split <;> omega

/-- An exchange that fails owes a response only if it ends because time is up. -/
theorem owing_failing_le (x : Exchange) (e : BridgeError) (rc : Receipt) :
    owing (.failing e) rc ≤ outcomes [.settled ⟨x, .error e⟩] := by
  by_cases he : e = .timeout
  · rw [he]
    exact owing_le _ rc
  · rw [show owing (.failing e) rc = 0 by simp [owing, he]]
    exact Nat.zero_le _

theorem Balanced.step {k n : Nat} {d d' : Desk} {o : Op} {e : Option Event} (h : Balanced k n d.turn)
    (ho : o.Open) (hr : Rule d o e d') :
    Balanced (k + (asked e.toList).length) (n + outcomes e.toList) d'.turn := by
  cases hr with
  | idle | enter => exact h
  | refuse | drop => cases ho
  | begin turn waiting =>
    rw [turn] at h
    exact ⟨Receipt.noConfusion, h⟩
  | @ask x rc turn deadline =>
    rw [turn] at h
    obtain ⟨hd, h⟩ := h
    refine ⟨hd, ?_⟩
    cases rc with
    | nothing => exact Nat.succ_le_succ h
    | response bs => exact h
    | dropped => exact absurd rfl hd
  | @fail x rc turn e =>
    rw [turn] at h
    obtain ⟨hd, h⟩ := h
    have hk : k ≤ n := by
      cases rc with
      | nothing => exact h
      | response bs => exact Nat.le_of_succ_le h
      | dropped => exact absurd rfl hd
    exact ⟨hd, Nat.le_trans hk (Nat.le_add_right n _)⟩
  | @take x p turn bs =>
    rw [turn] at h
    obtain ⟨-, h⟩ := h
    refine ⟨Receipt.noConfusion, ?_⟩
    cases p with
    | installed => exact Nat.succ_le_succ h
    | sent deadline => exact h
    | failing e =>
      have hn : k ≤ n + 1 := Nat.le_trans h (Nat.add_le_add_left (owing_le _ _) n)
      exact Nat.le_trans hn (Nat.le_add_right _ _)
  | miss ticket bs => exact h.mono (Nat.le_succ n)
  | @timeout x deadline rc wait o turn =>
    rw [turn] at h
    obtain ⟨hd, h⟩ := h
    refine ⟨hd, ?_⟩
    cases rc with
    | nothing => exact h
    | response bs => exact h
    | dropped => exact absurd rfl hd
  | @vain x deadline rc wait o turn done op =>
    rcases op with rfl | rfl
    · exact absurd done (ho deadline)
    · exact absurd done (ho deadline)
  | dropped turn =>
    rw [turn] at h
    exact absurd rfl h.1
  | serve turn =>
    rw [turn] at h
    exact h.2
  | @giveUp x e rc turn =>
    rw [turn] at h
    exact Nat.le_trans h.2 (Nat.add_le_add_left (owing_failing_le x e rc) n)

theorem outcomes_append (t u : List Event) : outcomes (t ++ u) = outcomes t + outcomes u := by
  simp only [outcomes, answers_append, List.length_append, List.countP_append]
  omega

/-- **Until the session closes, only a timeout leaves a request behind.** When no exchange is in its
turn, there are no more requests than responses and exchanges that ended because time was up. -/
theorem length_asked_le {os : List Op} (ho : ∀ o ∈ os, o.Open) (ht : (after {} os).turn = none) :
    (asked (trace {} os)).length ≤
      (answers (trace {} os)).length + (trace {} os).countP Event.isTimeout := by
  have hb : Balanced (asked ([] ++ trace {} os)).length (outcomes ([] ++ trace {} os))
      (after {} os).turn := by
    refine run_induction (P := fun t d => Balanced (asked t).length (outcomes t) d.turn) (t := [])
      sound_start (Nat.le_refl 0) os fun o hm t d e d' _ hr hb => ?_
    rw [asked_append, List.length_append, outcomes_append]
    exact hb.step (ho o hm) hr
  rw [ht, List.nil_append] at hb
  exact hb

end Desk
end Seph
