import Antecedent.Clause.Shape
import Mathlib.Tactic.Lemma

namespace Antecedent

def inOrder (modifiers : List Modifier) (target : Option String) (tag : Option Tag)
    (block : Option (List Test)) : List Token :=
  modifiers.map .modifier ++ (target.toList.map .target ++
    (tag.toList.map .tag ++ block.toList.map .tests))

lemma mem_inOrder {modifiers : List Modifier} {target : Option String} {tag : Option Tag}
    {block : Option (List Test)} :
    (∀ m, .modifier m ∈ inOrder modifiers target tag block ↔ m ∈ modifiers) ∧
      ∀ type, .target type ∈ inOrder modifiers target tag block ↔ target = some type := by
  constructor
  · intro m
    simp [inOrder]
  · intro type
    simp [inOrder]

namespace Shape

lemma split_modifiers (tokens : List Token) :
    tokens = (leadingModifiers tokens).map .modifier ++ afterModifiers tokens := by
  induction tokens with
  | nil => simp [leadingModifiers, afterModifiers]
  | cons t tokens ih =>
    cases t with
    | modifier m => simpa [leadingModifiers, afterModifiers] using ih
    | target type => simp [leadingModifiers, afterModifiers]
    | tag t => simp [leadingModifiers, afterModifiers]
    | tests ts => simp [leadingModifiers, afterModifiers]

lemma split_target (tokens : List Token) :
    tokens = (takeTarget tokens).1.toList.map .target ++ (takeTarget tokens).2 := by
  unfold takeTarget
  split <;> simp

lemma split_tag (tokens : List Token) :
    tokens = (takeTag tokens).1.toList.map .tag ++ (takeTag tokens).2 := by
  unfold takeTag
  split <;> simp

lemma split_tests (tokens : List Token) : ∃ block : Option (List Test),
    tokens = block.toList.map .tests ++ (takeTests tokens).2 ∧
      (takeTests tokens).1 = block.getD [] := by
  unfold takeTests
  split
  · next ts rest => exact ⟨some ts, by simp⟩
  · exact ⟨none, by simp⟩

lemma modifiers_inOrder (modifiers : List Modifier) (target : Option String) (tag : Option Tag)
    (block : Option (List Test)) :
    leadingModifiers (inOrder modifiers target tag block) = modifiers ∧
      afterModifiers (inOrder modifiers target tag block) = inOrder [] target tag block := by
  induction modifiers with
  | nil => cases target <;> cases tag <;> cases block <;>
      simp [inOrder, leadingModifiers, afterModifiers]
  | cons m modifiers ih =>
    simp only [inOrder, List.map_cons, List.cons_append, leadingModifiers, afterModifiers] at ih ⊢
    exact ⟨congrArg (m :: ·) ih.1, ih.2⟩

lemma ofTokens_inOrder {modifiers : List Modifier} (h : .existing ∉ modifiers)
    (target : Option String) (tag : Option Tag) (block : Option (List Test)) :
    ofTokens (inOrder modifiers target tag block) = .ok
      { negated := modifiers.contains .negated
        subtype := modifiers.contains .subtyped
        collected := modifiers.contains .collected
        target, tag, tests := block.getD [] } := by
  obtain ⟨hm, ha⟩ := modifiers_inOrder modifiers target tag block
  simp only [ofTokens, hm, ha, if_neg h]
  cases target <;> cases tag <;> cases block <;> simp [inOrder, takeTarget, takeTag, takeTests]

lemma inOrder_of_ofTokens {tokens : List Token} {shape : Shape} (h : ofTokens tokens = .ok shape) :
    ∃ modifiers block, .existing ∉ modifiers ∧
      tokens = inOrder modifiers shape.target shape.tag block ∧
      shape.tests = block.getD [] := by
  simp only [ofTokens] at h
  split at h
  · cases h
  · next hm =>
    split at h
    · next hr =>
      obtain rfl := Except.ok.inj h
      obtain ⟨block, hb, ht⟩ := split_tests (takeTag (takeTarget (afterModifiers tokens)).2).2
      refine ⟨leadingModifiers tokens, block, hm, ?_, ht⟩
      rw [hr, List.append_nil] at hb
      dsimp only [inOrder]
      rw [← hb, ← split_tag, ← split_target, ← split_modifiers]
    · cases h

end Shape

end Antecedent
