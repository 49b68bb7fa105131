import Seph.Automation.Basic
import Seph.Proofs.Pattern.Groups
import Seph.Proofs.Pattern.Matching
import Seph.Proofs.Wire

/-!
# Where the patterns of rules match

A pattern of a rule has to match at the start of a text. To that end it is put into a group behind `^`
before it is read. What is read is the pattern behind a look for the start of the text, so the rule
takes a text exactly when the pattern has a match there; except for a pattern in which a parenthesis
strays. Alone it is no pattern; but in the group the parenthesis closes the group, and what follows
it is not held to the start of the text.

1. `Rule.anchored_of_ofWritten`: the pattern of one rule.
2. `Automation.patterns_anchored`: the patterns of a document.
3. `Automation.stray_pattern_not_anchored`: a document whose pattern has a stray parenthesis is taken,
   and its rule takes a text that the pattern matches behind the start only.
-/

namespace Seph

open Pattern (parse?)

namespace Rule

theorem anchored_eq (p : String) : anchored p = Pattern.enclosed p.toList := rfl

theorem pattern_of_ofWritten {w : WrittenRule} {r : Rule} {p : String} (h : ofWritten w = .ok r)
    (hp : w.pattern = some p) : ∃ t, r.pattern = some t ∧ parse? (anchored p) = some t := by
  obtain ⟨text, pattern, x, y, conditions, actions⟩ := w
  cases hp
  simp only [ofWritten] at h
  split at h
  · next t ht =>
    cases h
    exact ⟨t, rfl, ht⟩
  · cases h

/-- **The pattern of a rule** that is taken is a pattern by itself exactly when no parenthesis strays in it,
and then the rule takes the texts in which it has a match at the start. -/
theorem anchored_of_ofWritten {w : WrittenRule} {r : Rule} {p : String} (h : ofWritten w = .ok r)
    (hp : w.pattern = some p) : ∃ t, r.pattern = some t ∧
      ((∃ q, parse? p.toList = some q) ↔ ¬ Pattern.Place.start.Strays p.toList) ∧
      ∀ q, parse? p.toList = some q → ∀ text, t.isMatch text = true ↔ ∃ j, q.Matches text 0 j := by
  obtain ⟨t, ht, hread⟩ := pattern_of_ofWritten h hp
  rw [anchored_eq] at hread
  have hcases := Pattern.parse?_enclosed hread
  refine ⟨t, ht, ⟨?_, fun hs => ?_⟩, fun q hq text => ?_⟩
  · rintro ⟨q, hq⟩ hs
    rw [Pattern.parse?_eq_none_of_strays hs] at hq
    cases hq
  · obtain ⟨q, hq, -⟩ := hcases.resolve_left hs
    exact ⟨q, hq⟩
  · rcases hcases with hs | ⟨q', hq', rfl⟩
    · rw [Pattern.parse?_eq_none_of_strays hs] at hq
      cases hq
    · cases hq.symm.trans hq'
      exact Pattern.isMatch_textStart q text

end Rule

namespace Automation

theorem rules_of_ofText {s : String} {a : Automation} (h : ofText s = .ok a) : ∃ d,
    Document.ofText s = .ok d ∧ List.Forall₂ (fun w r => Rule.ofWritten w = .ok r) d.rules a.rules := by
  obtain ⟨d, hd, h⟩ := exists_ok_of_bind h
  refine ⟨d, hd, ?_⟩
  unfold ofDocument at h
  split at h
  · cases h
  · obtain ⟨rules, hrules, h⟩ := exists_ok_of_bind h
    cases h
    exact mapM_eq_ok_iff.1 hrules

/-- **Patterns of rules match at the start of texts.** A document is taken with a rule for each that is
written. The pattern that a rule is written with is a pattern by itself exactly when no parenthesis strays
in it; and then the rule takes a text exactly when the pattern has a match that begins at the first
character. -/
theorem patterns_anchored {s : String} {a : Automation} (h : ofText s = .ok a) :
    ∃ d, Document.ofText s = .ok d ∧
      List.Forall₂ (fun w r => ∀ p, w.pattern = some p → ∃ t, r.pattern = some t ∧
        ((∃ q, parse? p.toList = some q) ↔ ¬ Pattern.Place.start.Strays p.toList) ∧
        ∀ q, parse? p.toList = some q → ∀ text, t.isMatch text = true ↔ ∃ j, q.Matches text 0 j)
      d.rules a.rules := by
  obtain ⟨d, hd, hrules⟩ := rules_of_ofText h
  exact ⟨d, hd, hrules.imp fun w r hr p hp => Rule.anchored_of_ofWritten hr hp⟩

/-- A rule with two alternatives takes the texts that begin with one of them. -/
theorem patterns_anchored_of_alternatives :
    let s := "\x7b\"version\": 1, " ++
      "\"rules\": [\x7b\"regexp\": \"a|b\", \"actions\": [[\"exit\"]]\x7d]\x7d"
    let q : Pattern := .either (.one (.single 'a')) (.one (.single 'b'))
    let t : Pattern := .seq (.look .textStart) q
    ofText s = .ok ⟨[⟨none, some t, none, none, [], [.exit]⟩], []⟩ ∧
      Document.ofText s = .ok ⟨1, [⟨none, some "a|b", none, none, [], [.exit]⟩]⟩ ∧
      parse? "a|b".toList = some q ∧ ¬ Pattern.Place.start.Strays "a|b".toList ∧
      (∀ text, t.isMatch text = true ↔ ∃ j, q.Matches text 0 j) ∧
      t.isMatch "bx".toList = true ∧ t.isMatch "xb".toList = false := by
  intro s q t
  have hs : ofText s = .ok ⟨[⟨none, some t, none, none, [], [.exit]⟩], []⟩ :=
    ok_of_toOption (by decide +kernel)
  have hd : Document.ofText s = .ok ⟨1, [⟨none, some "a|b", none, none, [], [.exit]⟩]⟩ :=
    ok_of_toOption (by decide +kernel)
  have hq : parse? "a|b".toList = some q := by decide +kernel
  obtain ⟨d, hd', hall⟩ := patterns_anchored hs
  cases hd.symm.trans hd'
  obtain ⟨hrule, -⟩ := List.forall₂_cons.1 hall
  obtain ⟨t', ht, hvalid, htest⟩ := hrule "a|b" rfl
  cases ht
  exact ⟨hs, hd, hq, hvalid.1 ⟨q, hq⟩, htest q hq, by decide +kernel, by decide +kernel⟩

/-- **A stray parenthesis undoes the anchor.** The pattern of the rule is none by itself. Yet the document is
taken, and its rule takes a text that what was read of the pattern does not match at the start. -/
theorem stray_pattern_not_anchored :
    let s := "\x7b\"version\": 1, " ++
      "\"rules\": [\x7b\"regexp\": \"a)|(?:b\", \"actions\": [[\"exit\"]]\x7d]\x7d"
    let t : Pattern := .either (.seq (.look .textStart) (.one (.single 'a'))) (.one (.single 'b'))
    ofText s = .ok ⟨[⟨none, some t, none, none, [], [.exit]⟩], []⟩ ∧
      Document.ofText s = .ok ⟨1, [⟨none, some "a)|(?:b", none, none, [], [.exit]⟩]⟩ ∧
      parse? "a)|(?:b".toList = none ∧
      t.isMatch "xb".toList = true ∧ ¬ ∃ j, t.Matches "xb".toList 0 j := by
  intro s t
  have hs : ofText s = .ok ⟨[⟨none, some t, none, none, [], [.exit]⟩], []⟩ :=
    ok_of_toOption (by decide +kernel)
  have hd : Document.ofText s = .ok ⟨1, [⟨none, some "a)|(?:b", none, none, [], [.exit]⟩]⟩ :=
    ok_of_toOption (by decide +kernel)
  refine ⟨hs, hd, by decide +kernel, by decide +kernel, fun hj => ?_⟩
  have hstart : (Pattern.seq (.look .textStart) t).isMatch "xb".toList = false := by decide +kernel
  rw [(Pattern.isMatch_textStart t _).2 hj] at hstart
  cases hstart

end Automation
end Seph
