import Seph.Proofs.Automation.Firing
import Seph.Proofs.Engine.Display

/-!
# What a general status reports

A general status that succeeds shows the pixels of the refresh, reports the texts read, and then puts
out what the rules do at them. The rules are asked text by text, each under the switches that the texts
before it have set, but their outputs come only behind all the texts.

1. `Engine.foldl_reactStep`: what the actions of one rule come to.
2. `Engine.fired_reactAll`: what the rules do at texts one after the other.
3. `Engine.reactions_in_order`: the outputs of a general status.
-/

namespace Seph

/-- What an action puts out; a switch is set without it. -/
def Action.output? : Action → Option Output
  | setBool _ _ => none
  | exit => some .exit
  | button mask pressed => some (.action (.button mask pressed))
  | finger x y pressed => some (.action (.finger x y pressed))

theorem Action.output?_ne_setBool (a : Action) (key : String) (b : Bool) :
    a.output? ≠ some (.action (.setBool key b)) := by
  cases a <;> simp [output?]

namespace Engine

/-! ## Rules that may be absent -/

/-- The rules, none if there is no document. -/
def rulesOf (rules : Option Automation) : List Rule := (rules.map Automation.rules).getD []

/-- The values of the switches; without a document all are off. -/
def switchesOf (rules : Option Automation) : String → Bool :=
  (rules.map Automation.getBool).getD fun _ => false

/-- The actions of one rule set switches at once, and put out the rest in order. -/
theorem foldl_reactStep (actions : List Action) (s : Automation × List Output) :
    (actions.foldl reactStep s).1.rules = s.1.rules ∧
      (actions.foldl reactStep s).1.getBool = Action.switched s.1.getBool actions ∧
      (actions.foldl reactStep s).2 = (actions.filterMap Action.output?).reverse ++ s.2 := by
  induction actions generalizing s with
  | nil => exact ⟨rfl, rfl, rfl⟩
  | cons a actions ih =>
    obtain ⟨hr, hb, ho⟩ := ih (reactStep s a)
    rw [List.foldl_cons, hr, hb, ho, Action.switched_cons]
    cases a with
    | setBool key b => exact ⟨rfl, congrArg (Action.switched · _) (s.1.getBool_setBool key b), rfl⟩
    | exit | button | finger => exact ⟨rfl, rfl, by simp [reactStep, Action.output?]⟩

theorem fires_react (rules : Option Automation) (e : TextEvent) :
    ∃ actions, Automation.Fires (switchesOf rules) e (rulesOf rules) actions ∧
      rulesOf (react rules e).1 = rulesOf rules ∧
      switchesOf (react rules e).1 = Action.switched (switchesOf rules) actions ∧
      (react rules e).2 = actions.filterMap Action.output? := by
  cases rules with
  | none => exact ⟨[], .none (by simp [rulesOf]), rfl, rfl, rfl⟩
  | some a =>
    obtain ⟨hr, hb, ho⟩ := foldl_reactStep ((a.actions? e).getD []) (a, [])
    rw [react_some]
    refine ⟨_, a.fires_actions? e, hr, hb, ?_⟩
    rw [ho, List.append_nil, List.reverse_reverse]

/-- **At texts one after the other** each text finds the switches that the texts before it left. -/
theorem fired_reactAll (rules : Option Automation) (texts : List TextEvent) :
    ∃ fired, Automation.Fired (rulesOf rules) (switchesOf rules) texts fired ∧
      rulesOf (reactAll rules texts).1 = rulesOf rules ∧
      switchesOf (reactAll rules texts).1 = Action.switched (switchesOf rules) fired.flatten ∧
      (reactAll rules texts).2 = fired.flatten.filterMap Action.output? := by
  induction texts generalizing rules with
  | nil => exact ⟨[], .nil, rfl, rfl, rfl⟩
  | cons e texts ih =>
    obtain ⟨actions, hf, hr, hs, ho⟩ := fires_react rules e
    obtain ⟨fired, gf, gr, gs, go⟩ := ih (react rules e).1
    rw [hr, hs] at gf
    refine ⟨actions :: fired, .cons hf gf, gr.trans hr, ?_, ?_⟩
    · rw [List.flatten_cons, Action.switched_append, ← hs]
      exact gs
    · rw [List.flatten_cons, List.filterMap_append, ← ho, ← go]
      rfl

/-! ## The outputs -/

theorem result_finish (e : Engine) :
    e.finish.result = .ok (shown e.committed.2 ++ e.canvas.text.events.map .text ++
      (reactAll e.rules e.canvas.text.events).2 ++ [.statusReceived]) := by
  obtain ⟨model, graphics, ⟨frame, text⟩, cursor, link, rules, _ | r, console⟩ := e <;> rfl

theorem rules_finish (e : Engine) :
    e.finish.engine.rules = (reactAll e.rules e.canvas.text.events).1 := by
  obtain ⟨model, graphics, ⟨frame, text⟩, cursor, link, rules, _ | r, console⟩ := e <;> rfl

theorem text_finish (e : Engine) : e.finish.engine.canvas.text = e.canvas.text.take.2 := by
  obtain ⟨model, graphics, ⟨frame, text⟩, cursor, link, rules, _ | r, console⟩ := e <;> rfl

theorem exists_shown (ps : Array Pixel) :
    ∃ screens : List (Array Pixel), shown ps = screens.map .screen ∧ screens.length ≤ 1 := by
  unfold shown
  split
  · exact ⟨[], rfl, Nat.zero_le 1⟩
  · exact ⟨[ps], rfl, Nat.le_refl 1⟩

/-- **What a general status reports.** Whatever rules a device has, whatever texts wait and whatever was
drawn: a general status that succeeds shows one list of pixels at most; then come the texts in the order
of reading; then, for each text in that order, the actions of the first rule that matches it, without
those that set switches; and last that the status was received. Each text is matched under the switches
as the actions fired at the texts before it have set them, and the switches are left as all the actions
fired have set them. The rules stay, no text waits any more, and no output sets a switch. -/
theorem reactions_in_order {e : Engine} {bs : Bytes} {outputs : List Output}
    (succeeds : (e.update ⟨.generalStatus, bs⟩).result = .ok outputs) :
    let after := (e.update ⟨.generalStatus, bs⟩).engine
    let texts := e.canvas.text.events
    ∃ (screens : List (Array Pixel)) (fired : List (List Action)),
      outputs = screens.map .screen ++ texts.map .text ++
        fired.flatten.filterMap Action.output? ++ [.statusReceived] ∧
      screens.length ≤ 1 ∧
      Automation.Fired (rulesOf e.rules) (switchesOf e.rules) texts fired ∧
      switchesOf after.rules = Action.switched (switchesOf e.rules) fired.flatten ∧
      rulesOf after.rules = rulesOf e.rules ∧
      after.canvas.text.events = [] ∧
      ∀ key b, .action (.setBool key b) ∉ outputs := by
  intro after texts
  have hs : e.update ⟨.generalStatus, bs⟩ = e.finish := by
    rcases generalStatus_cases e bs with hc | ⟨x, hc⟩
    · exact hc
    · have hx : (e.generalStatus bs).result = .ok outputs := succeeds
      rw [hc] at hx
      cases hx
  obtain ⟨screens, hshown, hone⟩ := exists_shown e.committed.2
  obtain ⟨fired, hf, hr, hsw, ho⟩ := fired_reactAll e.rules texts
  have houts : outputs = screens.map .screen ++ texts.map .text ++
      fired.flatten.filterMap Action.output? ++ [.statusReceived] := by
    rw [hs, result_finish, hshown, ho] at succeeds
    exact (Except.ok.inj succeeds).symm
  have hrules : after.rules = (reactAll e.rules texts).1 := by
    show (e.update ⟨.generalStatus, bs⟩).engine.rules = _
    rw [hs, rules_finish]
  refine ⟨screens, fired, houts, hone, hf, by rw [hrules, hsw], by rw [hrules, hr], ?_, ?_⟩
  · show (e.update ⟨.generalStatus, bs⟩).engine.canvas.text.events = []
    rw [hs, text_finish]
    rfl
  · intro key b hm
    rw [houts] at hm
    simp only [List.mem_append, List.mem_map, List.mem_filterMap, List.mem_singleton, reduceCtorEq,
      and_false, exists_false, or_false, false_or] at hm
    obtain ⟨a, -, ha⟩ := hm
    exact a.output?_ne_setBool key b ha

/-- The same text twice. At the first a rule sets a switch and presses a button; at the second this rule
no longer matches, and the one behind it ends the session. -/
theorem reactions_at_text_read_twice :
    let once : Rule := ⟨some "Approve", none, none, none, [("seen", false)],
      [.setBool "seen" true, .button 1 true]⟩
    let again : Rule := ⟨some "Approve", none, none, none, [], [.exit]⟩
    let t : TextEvent := ⟨"Approve", 4, 8, 50, 11, false⟩
    let e : Engine := { new .nanoS .hid none with
      canvas := ⟨Framebuffer.blank Model.nanoS.panel, ((ScreenText.empty 12).addEvent t).addEvent t⟩
      rules := some ⟨[once, again], []⟩ }
    let outputs : List Output :=
      [.text t, .text t, .action (.button 1 true), .exit, .statusReceived]
    let after := (e.update ⟨.generalStatus, [0, 0]⟩).engine
    (e.update ⟨.generalStatus, [0, 0]⟩).result = .ok outputs ∧
    (∃ (screens : List (Array Pixel)) (fired : List (List Action)),
      outputs = screens.map .screen ++ [.text t, .text t] ++
        fired.flatten.filterMap Action.output? ++ [.statusReceived] ∧
      Automation.Fired [once, again] (switchesOf e.rules) [t, t] fired ∧
      switchesOf after.rules = Action.switched (switchesOf e.rules) fired.flatten) ∧
    switchesOf e.rules "seen" = false ∧ switchesOf after.rules "seen" = true := by
  intro once again t e outputs after
  have h : (e.update ⟨.generalStatus, [0, 0]⟩).result = .ok outputs := by rfl
  obtain ⟨screens, fired, houts, -, hf, hs, -⟩ := reactions_in_order h
  exact ⟨h, ⟨screens, fired, houts, hf, hs⟩, rfl, rfl⟩

end Engine
end Seph
