import Antecedent.Proofs.Source.RoundTrip

/-! Rules whose body is any expression: AND binds closer than OR, chains are flat, and parentheses only
group. -/

namespace Antecedent

lemma Source.definitions_single {d : Definition} {s : List Char} (h : definition s = .ok d []) :
    definitions s = .ok [d] [] := by
  have hne : s ≠ [] := by
    rintro rfl
    cases h
  have hend : definition.Declines [] := ⟨_, _, rfl⟩
  have hmany := Reader.many_of_ok h (List.length_pos_iff.mpr hne) (Reader.many_of_declines hend)
  exact Reader.bind_of_ok hmany

/-- The members of an AND at the top are the conditions of the rule. Anything else is its only
condition. -/
theorem parse_expression (e : Expression) : ∃ conditions,
    Source.parse ("rule r: " ++ e.render) = .ok [⟨"r", none, conditions⟩] ∧
      (∀ members, e.tree = .group .and members → conditions = members) ∧
        ((∀ members, e.tree ≠ .group .and members) → conditions = [e.tree]) := by
  refine ⟨Source.topConditions e.tree, ?_, ?_, ?_⟩
  · obtain ⟨t, ht, hok⟩ := Source.expression_reads e Source.phraseEnds_nil
    obtain rfl : t = [] := List.eq_nil_of_length_eq_zero (Nat.le_zero.mp ht.le)
    rw [List.append_nil] at hok
    have htext : ("rule r: " ++ e.render).toList = "rule ".toList ++ ("r".toList ++
        (Source.priorityText none ++ ':' :: ' ' :: e.render.toList)) := by
      simp [Source.priorityText]
    have hname : isIdentifier "r" = true := by decide
    apply Source.parse_of_definitions
    apply Source.definitions_single
    rw [htext]
    exact Source.definition_body hname hok
  · intro members he
    rw [he]
    rfl
  · intro hne
    exact Source.topConditions_of_ne hne

-- In `a and b OR (b or a)` the inner OR stays a group of its own.
example (a b : Factor) :
    (Phrase.link (.link a .lower (.last b)) .upper
      (.last (.last (.parens (.link (.last b) .lower (.last (.last a)))))) : Expression).tree =
        .group .or [.group .and [a.tree, b.tree], .group .or [b.tree, a.tree]] := rfl

end Antecedent
