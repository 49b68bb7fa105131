import Seph.Automation.Basic

/-!
# What rules do at texts

At a text the first rule that matches it fires. Its actions may set switches, and so decide which rules
match the texts after it.

1. `Rule.applies_iff`: what a rule asks of a text and of the switches.
2. `Automation.fires_actions?`: the rule that is found is the first that matches.
3. `Automation.Fired`: what was fired at texts one after the other, each under the switches that the
   texts before it left.
-/

namespace Seph

/-- A rule matches a text: what it says of the text, its place and the switches is so. -/
structure Rule.Matches (r : Rule) (value : String → Bool) (e : TextEvent) : Prop where
  text : ∀ t, r.text = some t → e.text = t
  pattern : ∀ p, r.pattern = some p → p.isMatch e.text.toList = true
  x : ∀ x, r.x = some x → e.x = x
  y : ∀ y, r.y = some y → e.y = y
  conditions : ∀ key b, (key, b) ∈ r.conditions → value key = b

theorem Rule.applies_iff (r : Rule) (value : String → Bool) (e : TextEvent) :
    r.applies value e = true ↔ r.Matches value e := by
  unfold Rule.applies
  simp only [Bool.and_eq_true, List.all_eq_true, Option.all_eq_true, beq_iff_eq]
  constructor
  · rintro ⟨⟨⟨⟨ht, hp⟩, hx⟩, hy⟩, hc⟩
    exact ⟨fun t h => (ht t h).symm, hp, fun x h => (hx x h).symm, fun y h => (hy y h).symm,
      fun key b h => hc (key, b) h⟩
  · intro h
    exact ⟨⟨⟨⟨fun t ht => (h.text t ht).symm, h.pattern⟩, fun x hx => (h.x x hx).symm⟩,
      fun y hy => (h.y y hy).symm⟩, fun c hc => h.conditions c.1 c.2 hc⟩

/-! ## Switches -/

namespace Action

/-- The values of the switches after an action. -/
def switch (value : String → Bool) : Action → String → Bool
  | setBool key b => fun k => if k = key then b else value k
  | button _ _ | finger _ _ _ | exit => value

/-- The values of the switches after actions, one after the other. -/
def switched (value : String → Bool) (actions : List Action) : String → Bool :=
  actions.foldl switch value

@[simp] theorem switched_nil (value : String → Bool) : switched value [] = value := rfl

@[simp] theorem switched_cons (value : String → Bool) (a : Action) (actions : List Action) :
    switched value (a :: actions) = switched (switch value a) actions := rfl

theorem switched_append (value : String → Bool) (actions more : List Action) :
    switched value (actions ++ more) = switched (switched value actions) more := List.foldl_append

end Action

namespace Automation

theorem getBool_setBool (a : Automation) (key : String) (b : Bool) :
    (a.setBool key b).getBool = Action.switch a.getBool (.setBool key b) := by
  have others (k : String) (hk : k ≠ key) (switches : List (String × Bool)) :
      (switches.filter fun s => s.1 != key).lookup k = switches.lookup k := by
    induction switches with
    | nil => rfl
    | cons s switches ih =>
      by_cases hs : s.1 = key
      · have hne : (k == s.1) = false := beq_eq_false_iff_ne.2 (hs ▸ hk)
        rw [List.filter_cons_of_neg (by simp [hs]), ih, List.lookup_cons, hne]
      · rw [List.filter_cons_of_pos (by simp [hs]), List.lookup_cons, List.lookup_cons, ih]
  funext k
  show (a.setBool key b).getBool k = if k = key then b else a.getBool k
  by_cases hk : k = key
  · rw [if_pos hk, hk, getBool_setBool_self]
  · have hne : (k == key) = false := beq_eq_false_iff_ne.2 hk
    rw [if_neg hk, getBool, setBool, List.lookup_cons, hne]
    exact congrArg (Option.getD · false) (others k hk a.switches)

/-! ## Firing -/

/-- The actions that rules fire at a text: those of the first rule that matches it, whatever rules are
behind that, or none when no rule matches. -/
inductive Fires (value : String → Bool) (e : TextEvent) : List Rule → List Action → Prop
  | first {passed : List Rule} {r : Rule} {behind : List Rule}
      (unmatched : ∀ q ∈ passed, ¬ q.Matches value e) (hit : r.Matches value e) :
    Fires value e (passed ++ r :: behind) r.actions
  | none {rules : List Rule} (unmatched : ∀ q ∈ rules, ¬ q.Matches value e) : Fires value e rules []

/-- The actions that are found are those of the first rule that matches. -/
theorem fires_actions? (a : Automation) (e : TextEvent) :
    Fires a.getBool e a.rules ((a.actions? e).getD []) := by
  unfold actions?
  cases h : a.rules.find? fun r => r.applies a.getBool e with
  | none =>
    refine .none fun q hq hm => ?_
    exact List.find?_eq_none.1 h q hq ((q.applies_iff a.getBool e).2 hm)
  | some r =>
    obtain ⟨hr, passed, behind, hrules, hpassed⟩ := List.find?_eq_some_iff_append.1 h
    rw [hrules]
    refine .first (fun q hq hm => ?_) ((r.applies_iff a.getBool e).1 hr)
    have hf := hpassed q hq
    rw [(q.applies_iff a.getBool e).2 hm] at hf
    cases hf

/-- What rules fired at texts, a list of actions for each: at every text the actions of the first rule
that matches it under the switches as the actions fired at the texts before it have set them. -/
structure Fired (rules : List Rule) (value : String → Bool) (texts : List TextEvent)
    (fired : List (List Action)) : Prop where
  length : fired.length = texts.length
  each : ∀ i e, texts[i]? = some e → ∃ actions, fired[i]? = some actions ∧
    Fires (Action.switched value (fired.take i).flatten) e rules actions

namespace Fired

variable {rules : List Rule} {value : String → Bool}

theorem nil : Fired rules value [] [] := ⟨rfl, nofun⟩

theorem cons {e : TextEvent} {texts : List TextEvent} {actions : List Action}
    {fired : List (List Action)} (first : Fires value e rules actions)
    (rest : Fired rules (Action.switched value actions) texts fired) :
    Fired rules value (e :: texts) (actions :: fired) where
  length := congrArg Nat.succ rest.length
  each i e' h := by
    cases i with
    | zero =>
      cases h
      exact ⟨actions, rfl, first⟩
    | succ i =>
      obtain ⟨later, hl, hf⟩ := rest.each i e' h
      refine ⟨later, hl, ?_⟩
      rwa [List.take_succ_cons, List.flatten_cons, Action.switched_append]

end Fired

end Automation
end Seph
