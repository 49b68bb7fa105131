import Seph.Proofs.Pacer.Ticks

/-!
# Calls that overlap

Several tasks call a pacer at once, and a call that touches it more than once can be overtaken between
two touches: a request for a tick that has found no pause, a pause that has not yet given up the tick
asked for, a release that has taken a tick and not yet launched it. A run is a list of the parts of
calls in the order in which they take effect (`Part`). Any number of tasks may ask, force, push, pause
and resume. One task sends packets, answers drawings and reports the statuses that come back; with a tick
in its hands it does nothing else before it has launched it.

A status touches the pacer twice as well, since it opens the slot before it acknowledges the tick in
flight. It is one part here: no other task looks at the slot, and a pause that looks at the tick in flight
between the two waits on, as it would have before the status.

1. `after_parts`: a call that nothing interrupts is the operation on the pacer.
2. `Guarded`, `account`: every tick launched is counted or in flight, however the calls overlap.
3. `Shared.Obeyed` and `obeyed_iff`: what overlaps the beginning of a pause can slip into it, and nothing
   else can.
-/

namespace Seph.Pacer

/-- What the sending task has in hand. -/
inductive Sender
  | idle
  /-- It has seen that the pacer is not closed. -/
  | looking
  /-- A tick that is not yet launched, and whether that has used up a wish for a forced one. -/
  | holding (forced : Bool)
  deriving DecidableEq, Repr

/-- A pacer, and how many calls have come how far. -/
structure Shared where
  pacer : Pacer := {}
  /-- Requests for a tick that have found no pause and have not yet noted it. -/
  asking : Nat := 0
  /-- Pauses that have not yet given up the tick asked for. -/
  stopping : Nat := 0
  /-- Pauses that wait for the end of the tick in flight. -/
  resting : Nat := 0
  sender : Sender := .idle
  deriving DecidableEq, Repr

/-- A part of a call that nothing interrupts. -/
inductive Part
  | push (p : Packet)
  | reply (p : Packet)
  | status
  | forceTick
  | resume
  | close
  /-- A request looks whether there is a pause. -/
  | ask
  | note
  /-- A pause begins. -/
  | stop
  | forget
  /-- A pause looks whether a tick is in flight. -/
  | rest
  /-- A release looks whether the pacer is closed. -/
  | look
  | fetch
  | launch
  deriving DecidableEq, Repr

/-- The operation of a call that is one part only. -/
def Part.op? : Part → Option Op
  | push p => some (.push p)
  | reply p => some (.reply p)
  | status => some .status
  | forceTick => some .forceTick
  | resume => some .resume
  | close => some .close
  | ask | note | stop | forget | rest | look | fetch | launch => none

/-- A call that is one part is neither a request, nor a pause, nor a release. -/
theorem Part.once {p : Part} {o : Op} (h : p.op? = some o) :
    o ≠ .requestTick ∧ o ≠ .pause ∧ o ≠ .next := by
  cases p <;> cases h <;> exact ⟨nofun, nofun, nofun⟩

theorem Part.op?_inj {p q : Part} {o : Op} (hp : p.op? = some o) (hq : q.op? = some o) : p = q := by
  cases p <;> cases hp <;> cases q <;> cases hq <;> rfl

/-- The parts of a call. The wait of a pause is left out, since it only looks. -/
def Op.parts : Op → List Part
  | push p => [.push p]
  | reply p => [.reply p]
  | status => [.status]
  | requestTick => [.ask, .note]
  | forceTick => [.forceTick]
  | pause => [.stop, .forget]
  | resume => [.resume]
  | close => [.close]
  | next => [.look, .fetch, .launch]

/-- What a part gives. -/
inductive Outcome
  | result (r : Result)
  | rested (w : Wait)
  | found (f : Found)
  /-- A tick is released. -/
  | launched (forced : Bool)
  /-- No call has come to this part. -/
  | absent
  deriving DecidableEq, Repr

namespace Shared

/-- Performs a call that touches the pacer once. -/
def whole (x : Shared) (o : Op) : Outcome × Shared :=
  (.result (x.pacer.step o).1, { x with pacer := (x.pacer.step o).2 })

/-- The same for a call of the sending task. -/
def own (x : Shared) (o : Op) : Outcome × Shared :=
  match x.sender with
  | .holding _ => (.absent, x)
  | _ => x.whole o

def step (x : Shared) : Part → Outcome × Shared
  | .push p => x.whole (.push p)
  | .reply p => x.own (.reply p)
  | .status => x.own .status
  | .forceTick => x.whole .forceTick
  | .resume => x.whole .resume
  | .close => x.whole .close
  | .ask =>
    if x.pacer.ticks.paused then (.result (.asked false), x)
    else (.result (.asked true), { x with asking := x.asking + 1 })
  | .note =>
    match x.asking with
    | 0 => (.absent, x)
    | n + 1 => (.result .done, { x with pacer := x.pacer.note, asking := n })
  | .stop => (.result .done, { x with pacer := x.pacer.stop, stopping := x.stopping + 1 })
  | .forget =>
    match x.stopping with
    | 0 => (.absent, x)
    | n + 1 =>
      (.result .done, { x with pacer := x.pacer.forget, stopping := n, resting := x.resting + 1 })
  | .rest =>
    match x.resting, x.pacer.waitIdle with
    | 0, _ => (.absent, x)
    | _ + 1, .on => (.rested .on, x)
    | n + 1, w => (.rested w, { x with resting := n })
  | .look =>
    match x.sender with
    | .idle =>
      if x.pacer.ticks.closed then (.result (.fetched .closed), x)
      else (.result .done, { x with sender := .looking })
    | _ => (.absent, x)
  | .fetch =>
    match x.sender with
    | .looking =>
      (.found x.pacer.fetch.1, { x with
        pacer := x.pacer.fetch.2
        sender := if x.pacer.fetch.1 = .tick then .holding x.pacer.tickForced else .idle })
    | _ => (.absent, x)
  | .launch =>
    match x.sender with
    | .holding forced => (.launched forced, { x with pacer := x.pacer.launch, sender := .idle })
    | _ => (.absent, x)

def after (x : Shared) : List Part → Shared
  | [] => x
  | p :: ps => after (x.step p).2 ps

/-- The parts of a run, and what they gave. -/
def trace (x : Shared) : List Part → List (Part × Outcome)
  | [] => []
  | p :: ps => (p, (x.step p).1) :: trace (x.step p).2 ps

@[simp] theorem after_nil (x : Shared) : x.after [] = x := rfl

@[simp] theorem trace_nil (x : Shared) : x.trace [] = [] := rfl

@[simp] theorem after_cons (x : Shared) (p : Part) (ps : List Part) :
    x.after (p :: ps) = (x.step p).2.after ps := rfl

@[simp] theorem trace_cons (x : Shared) (p : Part) (ps : List Part) :
    x.trace (p :: ps) = (p, (x.step p).1) :: (x.step p).2.trace ps := rfl

theorem after_append (x : Shared) (ps qs : List Part) :
    x.after (ps ++ qs) = (x.after ps).after qs := by
  induction ps generalizing x with
  | nil => rfl
  | cons p ps ih => exact ih _

/-- A tick is taken. -/
def takes : Part × Outcome → Bool
  | (_, .found .tick) => true
  | _ => false

/-- A tick is released. -/
def launches : Part × Outcome → Bool
  | (_, .launched _) => true
  | _ => false

/-! ## What a part can do -/

/-- The moves: a part, what it gives, and what is shared after it. -/
inductive Move (x : Shared) : Part → Outcome → Shared → Prop
  | whole {p : Part} {o : Op} {r : Result} {s : Pacer} (op : p.op? = some o)
      (rule : Rule x.pacer ⟨o, r⟩ s) (free : o.isStatus = true → ∀ f, x.sender ≠ .holding f) :
    Move x p (.result r) { x with pacer := s }
  | ask (paused : x.pacer.ticks.paused = false) :
    Move x .ask (.result (.asked true)) { x with asking := x.asking + 1 }
  | askIgnored (paused : x.pacer.ticks.paused = true) : Move x .ask (.result (.asked false)) x
  | note {n : Nat} (asking : x.asking = n + 1) :
    Move x .note (.result .done) { x with pacer := x.pacer.note, asking := n }
  | stop : Move x .stop (.result .done)
      { x with pacer := x.pacer.stop, stopping := x.stopping + 1 }
  | forget {n : Nat} (stopping : x.stopping = n + 1) :
    Move x .forget (.result .done)
      { x with pacer := x.pacer.forget, stopping := n, resting := x.resting + 1 }
  | rest (w : Wait) {n : Nat} (resting : x.resting = n + 1) :
    Move x .rest (.rested w) { x with resting := n }
  | restOn : Move x .rest (.rested .on) x
  | look (sender : x.sender = .idle) : Move x .look (.result .done) { x with sender := .looking }
  | ended (sender : x.sender = .idle) : Move x .look (.result (.fetched .closed)) x
  | head (q : Packet) (qs : List Packet) (sender : x.sender = .looking)
      (queue : x.pacer.queue = q :: qs) :
    Move x .fetch (.found (.packet q))
      { x with pacer := { x.pacer with queue := qs, slot := false }, sender := .idle }
  | take (sender : x.sender = .looking) (slot : x.pacer.slot = true) (queue : x.pacer.queue = [])
      (wanted : x.pacer.wantsTick = true) :
    Move x .fetch (.found .tick) { x with
      pacer := { x.pacer with slot := false, tickRequested := false, tickForced := false }
      sender := .holding x.pacer.tickForced }
  | nothing (sender : x.sender = .looking) : Move x .fetch (.found .nothing) { x with sender := .idle }
  | launch (forced : Bool) (sender : x.sender = .holding forced) :
    Move x .launch (.launched forced) { x with pacer := x.pacer.launch, sender := .idle }
  | absent (p : Part) : Move x p .absent x

theorem whole_move {x : Shared} {p : Part} {o : Op} (op : p.op? = some o)
    (free : o.isStatus = true → ∀ f, x.sender ≠ .holding f) :
    Move x p (x.whole o).1 (x.whole o).2 := .whole op (step_rule x.pacer o) free

theorem own_move (x : Shared) {p : Part} {o : Op} (op : p.op? = some o) :
    Move x p (x.own o).1 (x.own o).2 := by
  cases hs : x.sender with
  | holding f =>
    simp only [own, hs]
    exact .absent p
  | idle | looking =>
    simp only [own, hs]
    exact whole_move op fun _ f hf => by rw [hs] at hf; cases hf

theorem step_move (x : Shared) (p : Part) : Move x p (x.step p).1 (x.step p).2 := by
  cases p with
  | push q => exact whole_move (o := .push q) rfl nofun
  | reply q => exact own_move x (o := .reply q) rfl
  | status => exact own_move x (o := .status) rfl
  | forceTick => exact whole_move (o := .forceTick) rfl nofun
  | resume => exact whole_move (o := .resume) rfl nofun
  | close => exact whole_move (o := .close) rfl nofun
  | ask =>
    cases hp : x.pacer.ticks.paused with
    | true => simpa [step, hp] using Move.askIgnored hp
    | false => simpa [step, hp] using Move.ask hp
  | note =>
    cases ha : x.asking with
    | zero => simpa [step, ha] using Move.absent Part.note
    | succ n => simpa [step, ha] using Move.note ha
  | stop => exact .stop
  | forget =>
    cases hs : x.stopping with
    | zero => simpa [step, hs] using Move.absent Part.forget
    | succ n => simpa [step, hs] using Move.forget hs
  | rest =>
    cases hr : x.resting with
    | zero => simpa [step, hr] using Move.absent Part.rest
    | succ n =>
      cases hw : x.pacer.waitIdle with
      | on => simpa [step, hr, hw] using Move.restOn
      | «over» => simpa [step, hr, hw] using Move.rest .over hr
      | vain => simpa [step, hr, hw] using Move.rest .vain hr
  | look =>
    cases hs : x.sender with
    | looking | holding => simpa [step, hs] using Move.absent Part.look
    | idle =>
      cases hc : x.pacer.ticks.closed with
      | true => simpa [step, hs, hc] using Move.ended hs
      | false => simpa [step, hs, hc] using Move.look hs
  | fetch =>
    cases hs : x.sender with
    | idle | holding => simpa [step, hs] using Move.absent Part.fetch
    | looking =>
      cases hl : x.pacer.slot with
      | false => simpa [step, Pacer.fetch, hs, hl] using Move.nothing hs
      | true =>
        cases hq : x.pacer.queue with
        | cons q qs => simpa [step, Pacer.fetch, hs, hl, hq] using Move.head q qs hs hq
        | nil =>
          cases hw : x.pacer.wantsTick with
          | true => simpa [step, Pacer.fetch, hs, hl, hq, hw] using Move.take hs hl hq hw
          | false => simpa [step, Pacer.fetch, hs, hl, hq, hw] using Move.nothing hs
  | launch =>
    cases hs : x.sender with
    | idle | looking => simpa [step, hs] using Move.absent Part.launch
    | holding f => simpa [step, hs] using Move.launch f hs

section Step

variable {x y : Shared} {p : Part} {r : Outcome}

/-- The pacer is guarded, and a tick in hand has closed the slot while no other was in flight. -/
structure Guarded (x : Shared) : Prop where
  flight : x.pacer.Guarded
  hand : ∀ f, x.sender = .holding f → x.pacer.slot = false ∧ x.pacer.ticks.inFlight = false

theorem guarded_new : Guarded {} := ⟨Pacer.guarded_new, nofun⟩

theorem Move.guarded (h : Move x p r y) (hg : x.Guarded) : y.Guarded := by
  cases h with
  | whole op rule free =>
    refine ⟨rule.guarded hg.flight, fun f hf => ?_⟩
    have hs := eq_false_of_ne_true fun hs => free hs f hf
    obtain ⟨h₁, h₂⟩ := rule.frame hs (Part.once op).2.2
    exact ⟨h₁.trans (hg.hand f hf).1, h₂.trans (hg.hand f hf).2⟩
  | head => exact ⟨fun _ hs => absurd hs Bool.false_ne_true, nofun⟩
  | take sender slot queue =>
    refine ⟨fun _ hs => absurd hs Bool.false_ne_true, fun f _ => ⟨rfl, ?_⟩⟩
    exact eq_false_of_ne_true fun hf => hg.flight hf slot queue
  | launch f sender =>
    have hs : x.pacer.slot = false := (hg.hand f sender).1
    exact ⟨fun _ ht => absurd (hs.symm.trans ht) Bool.false_ne_true, nofun⟩
  | nothing | look => exact ⟨hg.flight, nofun⟩
  | ask | askIgnored | note | stop | forget | rest | restOn | ended | absent => exact ⟨hg.flight, hg.hand⟩

/-- **The ticks launched are those counted and the one in flight.** -/
theorem Move.account (h : Move x p r y) (hg : x.Guarded) :
    y.pacer.ticks.count + y.pacer.ticks.inFlight.toNat =
      x.pacer.ticks.count + x.pacer.ticks.inFlight.toNat + (launches (p, r)).toNat := by
  cases h with
  | whole op rule free =>
    have ha := rule.account hg.flight
    rwa [Event.makes_of_ne_next (Part.once op).2.2] at ha
  | launch f sender =>
    rw [(hg.hand f sender).2]
    rfl
  | head | take | nothing | look | ask | askIgnored | note | stop | forget | rest | restOn | ended
    | absent => rfl

theorem Move.count (h : Move x p r y) :
    x.pacer.ticks.count ≤ y.pacer.ticks.count ∧
      (x.pacer.ticks.count < y.pacer.ticks.count → p = .status ∧ r = .result .done) := by
  cases h with
  | whole op rule free =>
    obtain ⟨hle, hlt⟩ := rule.count
    refine ⟨hle, fun h => ?_⟩
    obtain ⟨rfl, rfl⟩ := Event.mk.inj (hlt h)
    exact ⟨Part.op?_inj op rfl, rfl⟩
  | launch | head | take | nothing | look | ask | askIgnored | note | stop | forget | rest | restOn
    | ended | absent => exact ⟨Nat.le_refl _, fun h => absurd h (Nat.lt_irrefl _)⟩

theorem Move.in_flight (h : Move x p r y) (hf : x.pacer.ticks.inFlight = true) :
    y.pacer.ticks.inFlight = true ∨ p = .status ∧ r = .result .done := by
  cases h with
  | whole op rule free =>
    rcases rule.in_flight hf with h | h
    · exact .inl h
    · obtain ⟨rfl, rfl⟩ := Event.mk.inj h
      exact .inr ⟨Part.op?_inj op rfl, rfl⟩
  | launch => exact .inl rfl
  | head | take | nothing | look | ask | askIgnored | note | stop | forget | rest | restOn | ended
    | absent => exact .inl hf

/-- A tick is taken to fill a slot for which nothing waits, and uses up the wish for a forced one. -/
theorem Move.of_tick (h : Move x p (.found .tick) y) :
    p = .fetch ∧ x.pacer.slot = true ∧ x.pacer.queue = [] ∧ x.pacer.wantsTick = true ∧
      y.pacer.tickForced = false := by
  cases h with
  | take _ hs hq hw => exact ⟨rfl, hs, hq, hw, rfl⟩

theorem Move.of_launched {f : Bool} (h : Move x p (.launched f) y) :
    p = .launch ∧ x.sender = .holding f ∧ y.pacer.ticks.inFlight = true := by
  cases h with
  | launch _ hs => exact ⟨rfl, hs, rfl⟩

theorem Move.of_forget (h : Move x .forget (.result .done) y) : y.pacer.tickRequested = false := by
  cases h with
  | whole op => cases op
  | forget => rfl

theorem Move.holding {f : Bool} (h : Move x p r y) (hy : y.sender = .holding f) :
    x.sender = .holding f ∧ takes (p, r) = false ∨
      p = .fetch ∧ r = .found .tick ∧ x.pacer.tickForced = f := by
  cases h with
  | take => exact .inr ⟨rfl, rfl, Sender.holding.inj hy⟩
  | head | nothing | look | launch => cases hy
  | whole | ask | askIgnored | note | stop | forget | rest | restOn | ended | absent =>
    exact .inl ⟨hy, rfl⟩

theorem Move.forced (h : Move x p r y) (hy : y.pacer.tickForced = true) :
    p = .forceTick ∨ x.pacer.tickForced = true ∧ takes (p, r) = false := by
  cases h with
  | whole op rule free =>
    rcases rule.forced hy with rfl | h
    · exact .inl (Part.op?_inj op rfl)
    · exact .inr ⟨h, rfl⟩
  | take => cases hy
  | launch | head | nothing | look | ask | askIgnored | note | stop | forget | rest | restOn | ended
    | absent => exact .inr ⟨hy, rfl⟩

end Step

/-! ## Runs -/

theorem Guarded.after {x : Shared} (hg : x.Guarded) (ps : List Part) : (x.after ps).Guarded := by
  induction ps generalizing x with
  | nil => exact hg
  | cons p ps ih => exact ih ((step_move x p).guarded hg)

theorem account {x : Shared} (hg : x.Guarded) (ps : List Part) :
    (x.after ps).pacer.ticks.count + (x.after ps).pacer.ticks.inFlight.toNat =
      x.pacer.ticks.count + x.pacer.ticks.inFlight.toNat + (x.trace ps).countP launches := by
  induction ps generalizing x with
  | nil => rfl
  | cons p ps ih =>
    have hs := (step_move x p).account hg
    have hi := ih ((step_move x p).guarded hg)
    rw [after_cons, trace_cons, countP_cons_toNat]
    omega

theorem status_of_landed {x : Shared} {ps : List Part} (hf : x.pacer.ticks.inFlight = true)
    (ha : (x.after ps).pacer.ticks.inFlight = false) : (.status, .result .done) ∈ x.trace ps := by
  induction ps generalizing x with
  | nil =>
    rw [after_nil, hf] at ha
    cases ha
  | cons p ps ih =>
    rw [trace_cons, List.mem_cons]
    rcases (step_move x p).in_flight hf with h | ⟨hp, hr⟩
    · exact .inr (ih h ha)
    · exact .inl (Prod.ext hp.symm hr.symm)

/-- What the taking of a tick ends holds at the end of a run since its beginning, or since a part that
brought it about; no tick was taken after that. -/
theorem exists_since {P : Shared → Prop} {Q : Shared → Part → Prop}
    (hs : ∀ x p, P (x.step p).2 → Q x p ∨ P x ∧ takes (p, (x.step p).1) = false) {x : Shared}
    {ps : List Part} (h : P (x.after ps)) :
    P x ∨ ∃ pre p post, ps = pre ++ p :: post ∧ Q (x.after pre) p ∧
      (((x.after pre).step p).2.trace post).countP takes = 0 := by
  suffices hx : P x ∧ (x.trace ps).countP takes = 0 ∨ ∃ pre p post, ps = pre ++ p :: post ∧
      Q (x.after pre) p ∧ (((x.after pre).step p).2.trace post).countP takes = 0 from hx.imp_left And.left
  induction ps generalizing x with
  | nil => exact .inl ⟨h, rfl⟩
  | cons p ps ih =>
    rcases ih h with ⟨hp, hz⟩ | ⟨pre, q, post, rfl, hq, hz⟩
    · rcases hs x p hp with hq | ⟨hx, ht⟩
      · exact .inr ⟨[], p, ps, rfl, hq, hz⟩
      · refine .inl ⟨hx, ?_⟩
        rw [trace_cons, countP_cons_toNat, hz, ht]
        rfl
    · exact .inr ⟨p :: pre, q, post, rfl, hq, hz⟩

theorem exists_fetch {ps : List Part} {f : Bool} (h : (after {} ps).sender = .holding f) :
    ∃ pre post, ps = pre ++ .fetch :: post ∧ ((after {} pre).step .fetch).1 = .found .tick ∧
      (after {} pre).pacer.tickForced = f ∧
      (((after {} pre).step .fetch).2.trace post).countP takes = 0 := by
  have hs (x : Shared) (p : Part) (hy : (x.step p).2.sender = .holding f) :
      (p = .fetch ∧ (x.step p).1 = .found .tick ∧ x.pacer.tickForced = f) ∨
        x.sender = .holding f ∧ takes (p, (x.step p).1) = false := ((step_move x p).holding hy).symm
  rcases exists_since (P := fun x => x.sender = .holding f) hs h with h | ⟨pre, p, post, hp, hq, hz⟩
  · cases h
  · obtain ⟨rfl, ht, hf⟩ := hq
    exact ⟨pre, post, hp, ht, hf, hz⟩

theorem exists_force {ps : List Part} (h : (after {} ps).pacer.tickForced = true) :
    ∃ pre post, ps = pre ++ .forceTick :: post ∧
      (((after {} pre).step .forceTick).2.trace post).countP takes = 0 := by
  rcases exists_since (P := fun x => x.pacer.tickForced = true) (Q := fun _ p => p = .forceTick)
    (fun x p hy => (step_move x p).forced hy) h with h | ⟨pre, p, post, hp, rfl, hz⟩
  · cases h
  · exact ⟨pre, post, hp, hz⟩

/-! ## Pauses -/

/-- A pause that nothing has overlapped: no request is on its way to be noted, and no tick is in hand
but one that was forced. -/
structure Calm (x : Shared) : Prop where
  paused : x.pacer.ticks.paused = true
  asking : x.asking = 0
  hand : x.sender ≠ .holding false

section Pause

variable {x y : Shared} {p : Part} {r : Outcome}

theorem Calm.move (hx : x.Calm) (h : Move x p r y) (hp : p ≠ .resume) : y.Calm := by
  have absurd_asking {n : Nat} (ha : x.asking = n + 1) : False := by
    rw [hx.asking] at ha
    cases ha
  cases h with
  | whole op rule free =>
    have hr := fun ho : _ = Op.resume => hp (Part.op?_inj (ho ▸ op) rfl)
    exact ⟨rule.paused hx.paused hr, hx.asking, hx.hand⟩
  | ask paused => rw [hx.paused] at paused; cases paused
  | note ha => exact (absurd_asking ha).elim
  | stop => exact ⟨rfl, hx.asking, hx.hand⟩
  | take _ _ _ wanted =>
    refine ⟨hx.paused, hx.asking, fun hs => ?_⟩
    -- in a pause only the wish for a forced tick is heard
    rw [wantsTick, hx.paused, Bool.not_true, Bool.and_false, Bool.or_false] at wanted
    rw [Sender.holding.inj hs] at wanted
    cases wanted
  | head | nothing | look | launch => exact ⟨hx.paused, hx.asking, nofun⟩
  | askIgnored | forget | rest | restOn | ended | absent => exact ⟨hx.paused, hx.asking, hx.hand⟩

/-- In a calm pause no tick is asked for but by force. -/
theorem Calm.silent (hx : x.Calm) (h : Move x p r y) (hq : x.pacer.tickRequested = false) :
    y.pacer.tickRequested = false := by
  cases h with
  | whole op rule free =>
    exact eq_false_of_ne_true fun ht => (rule.requested ht).elim
      (fun ho => (Part.once op).1 ho) fun hs => by rw [hq] at hs; cases hs
  | note ha => rw [hx.asking] at ha; cases ha
  | take | forget => rfl
  | ask | askIgnored | stop | rest | restOn | look | ended | head | nothing | launch | absent => exact hq

end Pause

/-- What a pause that begins now promises, whatever overlaps it: until it is ended every tick that is
released was forced, and once the tick asked for is given up none is asked for. -/
def Obeyed (x : Shared) : Prop :=
  ∀ ps, .resume ∉ ps →
    let y := (x.step .stop).2
    (∀ e ∈ y.trace ps, e.2 ≠ .launched false) ∧
    ((.forget, .result .done) ∈ y.trace ps → (y.after ps).pacer.tickRequested = false)

namespace Calm

variable {x : Shared} {ps : List Part}

theorem unforced (hx : x.Calm) (hp : .resume ∉ ps) : ∀ e ∈ x.trace ps, e.2 ≠ .launched false := by
  induction ps generalizing x with
  | nil => simp
  | cons p ps ih =>
    rw [List.mem_cons, not_or] at hp
    have hm := step_move x p
    intro e he
    rcases List.mem_cons.1 he with rfl | he
    · intro hl
      rw [show (x.step p).1 = .launched false from hl] at hm
      exact hx.hand hm.of_launched.2.1
    · exact ih (hx.move hm (Ne.symm hp.1)) hp.2 e he

theorem unasked (hx : x.Calm) (hp : .resume ∉ ps)
    (hq : x.pacer.tickRequested = false ∨ (.forget, .result .done) ∈ x.trace ps) :
    (x.after ps).pacer.tickRequested = false := by
  induction ps generalizing x with
  | nil => simpa using hq
  | cons p ps ih =>
    rw [List.mem_cons, not_or] at hp
    have hm := step_move x p
    refine ih (hx.move hm (Ne.symm hp.1)) hp.2 ?_
    rcases hq with hq | hq
    · exact .inl (hx.silent hm hq)
    · rcases List.mem_cons.1 hq with he | hq
      · obtain ⟨rfl, hr⟩ := Prod.mk.inj he
        rw [← hr] at hm
        exact .inl hm.of_forget
      · exact .inr hq

end Calm

/-- **What can slip into a pause.** A pause keeps its promise whatever overlaps it exactly when it begins
while no request is on its way to be noted and no unforced tick is in hand. -/
theorem obeyed_iff (x : Shared) : x.Obeyed ↔ x.asking = 0 ∧ x.sender ≠ .holding false := by
  constructor
  · intro h
    refine ⟨?_, fun hs => ?_⟩
    · cases ha : x.asking with
      | zero => rfl
      | succ n =>
        have hq := (h [.forget, .note] (by decide)).2 (by simp [step])
        simp [step, ha, note] at hq
    · have hl := (h [.launch] (by decide)).1 (.launch, .launched false) (by simp [step, hs])
      exact absurd rfl hl
  · rintro ⟨ha, hs⟩ ps hp
    have hc : (x.step .stop).2.Calm := ⟨rfl, ha, hs⟩
    exact ⟨hc.unforced hp, fun hf => hc.unasked hp (.inr hf)⟩

/-! ## Calls that nothing interrupts -/

/-- No call is under way. Pauses may wait, since they only look. -/
structure Idle (x : Shared) : Prop where
  asking : x.asking = 0
  stopping : x.stopping = 0
  sender : x.sender = .idle

theorem idle_new : Idle {} := ⟨rfl, rfl, rfl⟩

theorem Idle.obeyed {x : Shared} (h : x.Idle) : x.Obeyed :=
  (obeyed_iff x).2 ⟨h.asking, by rw [h.sender]; exact nofun⟩

/-- **A call that nothing interrupts** is the operation on the pacer. -/
theorem after_parts {x : Shared} (h : x.Idle) (o : Op) :
    (x.after o.parts).Idle ∧ (x.after o.parts).pacer = (x.pacer.step o).2 := by
  obtain ⟨ha, hs, hi⟩ := h
  cases o with
  | push | forceTick | resume | close => exact ⟨⟨ha, hs, hi⟩, rfl⟩
  | reply | status =>
    simp only [Op.parts, after_cons, after_nil, step, own, hi]
    exact ⟨⟨ha, hs, hi⟩, rfl⟩
  | requestTick =>
    cases hp : x.pacer.ticks.paused with
    | true =>
      simp only [Op.parts, after_cons, after_nil, step, hp, ha, Pacer.step, Pacer.requestTick, if_true]
      exact ⟨⟨ha, hs, hi⟩, trivial⟩
    | false =>
      simp only [Op.parts, after_cons, after_nil, step, hp, ha, Pacer.step, Pacer.requestTick,
        Bool.false_eq_true, if_false]
      exact ⟨⟨rfl, hs, hi⟩, trivial⟩
  | pause =>
    simp only [Op.parts, after_cons, after_nil, step, hs]
    exact ⟨⟨ha, rfl, hi⟩, rfl⟩
  | next =>
    cases hc : x.pacer.ticks.closed with
    | true =>
      simp only [Op.parts, after_cons, after_nil, step, hi, hc, Pacer.step, Pacer.next, if_true]
      exact ⟨⟨ha, hs, hi⟩, trivial⟩
    | false =>
      simp only [Op.parts, after_cons, after_nil, step, hi, hc, Pacer.step, Pacer.next,
        Bool.false_eq_true, if_false]
      rcases hf : x.pacer.fetch with ⟨f, s⟩
      cases f with
      | packet | tick | nothing => exact ⟨⟨ha, hs, rfl⟩, rfl⟩

theorem after_flatMap_parts {x : Shared} (h : x.Idle) (os : List Op) :
    (x.after (os.flatMap Op.parts)).Idle ∧
      (x.after (os.flatMap Op.parts)).pacer = x.pacer.after os := by
  induction os generalizing x with
  | nil => exact ⟨h, rfl⟩
  | cons o os ih =>
    obtain ⟨hi, hp⟩ := after_parts h o
    rw [List.flatMap_cons, after_append, Pacer.after_cons, ← hp]
    exact ih hi

/-! ## The account -/

/-- **Every tick is accounted for, however calls overlap.** After any run of parts of calls: the ticks
released are those counted and one more while a tick is in flight. The count does not fall, and only an
accepted status makes it grow. A tick that is released was taken to fill an open slot for which nothing
waited, and no other was taken since. Between two ticks that are released a status is accepted. In a pause
no tick is taken but a forced one, and that uses up a wish uttered since the last tick was taken. A pause
that begins now lets no other tick out and leaves none asked for, whatever comes, exactly when no request
is on its way to be noted and no unforced tick is in hand; and so always, if no call interrupts
another. -/
theorem ticks_of_overlapping_calls (ps : List Part) :
    let x := after {} ps
    (trace {} ps).countP launches = x.pacer.ticks.count + x.pacer.ticks.inFlight.toNat ∧
    (∀ p, x.pacer.ticks.count ≤ (x.step p).2.pacer.ticks.count ∧
      (x.pacer.ticks.count < (x.step p).2.pacer.ticks.count →
        p = .status ∧ (x.step p).1 = .result .done)) ∧
    (∀ p f, (x.step p).1 = .launched f → p = .launch ∧
      ∃ pre post, ps = pre ++ .fetch :: post ∧
        let y := after {} pre
        y.pacer.slot = true ∧ y.pacer.queue = [] ∧ (y.step .fetch).1 = .found .tick ∧
        y.pacer.tickForced = f ∧ ((y.step .fetch).2.trace post).countP takes = 0) ∧
    (∀ p qs q f g, (x.step p).1 = .launched f → (((x.step p).2.after qs).step q).1 = .launched g →
      (.status, .result .done) ∈ (x.step p).2.trace qs) ∧
    (∀ p, (x.step p).1 = .found .tick →
      (x.pacer.ticks.paused = true → x.pacer.tickForced = true) ∧
      (x.pacer.tickForced = true → (x.step p).2.pacer.tickForced = false ∧
        ∃ pre post, ps = pre ++ .forceTick :: post ∧
          (((after {} pre).step .forceTick).2.trace post).countP takes = 0)) ∧
    (x.Obeyed ↔ x.asking = 0 ∧ x.sender ≠ .holding false) ∧
    ∀ os, ps = os.flatMap Op.parts → x.pacer = Pacer.after {} os ∧ x.Obeyed := by
  intro x
  have hg : x.Guarded := guarded_new.after ps
  have launched {p : Part} {y : Shared} {f : Bool} (h : (y.step p).1 = .launched f) :
      p = .launch ∧ y.sender = .holding f ∧ (y.step p).2.pacer.ticks.inFlight = true := by
    have hm := step_move y p
    rw [h] at hm
    exact hm.of_launched
  have found {p : Part} {y : Shared} (h : (y.step p).1 = .found .tick) :
      p = .fetch ∧ y.pacer.slot = true ∧ y.pacer.queue = [] ∧ y.pacer.wantsTick = true ∧
        (y.step p).2.pacer.tickForced = false := by
    have hm := step_move y p
    rw [h] at hm
    exact hm.of_tick
  refine ⟨?_, fun p => (step_move x p).count, fun p f h => ?_, fun p qs q f g h h' => ?_, fun p h => ?_,
    obeyed_iff x, fun os ho => ?_⟩
  · have ha := account guarded_new ps
    rw [ha]
    exact (Nat.zero_add _).symm
  · obtain ⟨rfl, hs, -⟩ := launched h
    obtain ⟨pre, post, hp, ht, hf, hz⟩ := exists_fetch hs
    obtain ⟨-, hl, hq, -⟩ := found ht
    exact ⟨rfl, pre, post, hp, hl, hq, ht, hf, hz⟩
  · obtain ⟨-, -, hf⟩ := launched h
    obtain ⟨-, hs, -⟩ := launched h'
    -- the second tick was in hand while no other was in flight
    exact status_of_landed hf ((((step_move x p).guarded hg).after qs).hand g hs).2
  · obtain ⟨-, -, -, hw, hn⟩ := found h
    refine ⟨fun hp => ?_, fun hf => ⟨hn, exists_force hf⟩⟩
    rw [wantsTick, hp, Bool.not_true, Bool.and_false, Bool.or_false] at hw
    exact hw
  · subst ho
    obtain ⟨hi, hp⟩ := after_flatMap_parts idle_new os
    exact ⟨hp, hi.obeyed⟩

/-- A request that has found no pause is noted after a pause has ended its wait; and a tick that was taken
before a pause is released after the pause has ended its wait, though none was forced. -/
theorem pause_overtaken :
    (let ps : List Part := [.ask, .stop, .forget, .rest, .note]
     let x := after {} ps
     (.rest, .rested .over) ∈ trace {} ps ∧ x.stopping = 0 ∧ x.resting = 0 ∧
       x.pacer.ticks.paused = true ∧ x.pacer.tickRequested = true) ∧
    (let ps : List Part := [.status, .ask, .note, .look, .fetch, .stop, .forget, .rest]
     let x := after {} ps
     (.rest, .rested .over) ∈ trace {} ps ∧ x.stopping = 0 ∧ x.resting = 0 ∧
       x.pacer.ticks.paused = true ∧ (x.step .launch).1 = .launched false ∧ .forceTick ∉ ps) := by
  decide

end Shared
end Seph.Pacer
