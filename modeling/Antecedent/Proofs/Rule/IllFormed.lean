import Antecedent.Proofs.Condition.Choices
import Antecedent.Proofs.Condition.Leaves
import Antecedent.Proofs.Pattern.Refusals
import Antecedent.Proofs.Rule.Budget
import Antecedent.Proofs.Rule.WellFormed
import Antecedent.Regex.Reading

/-! A clause that no other clause can make right. However deep in a condition it stands, it is part
of some variant, and the definition is refused. -/

namespace Antecedent

/-- What is wrong with a clause on its own. Its tests include those nested in others. -/
inductive Clause.IllFormed [PatternReader] (c : Clause) : Prop
  | misplaced : (∀ modifiers target tag block, c.tokens ≠ inOrder modifiers target tag block) →
      IllFormed c
  | existing : .existing ∈ Shape.leadingModifiers c.tokens → IllFormed c
  | disallowed {t : PropertyTest} : .property t ∈ c.flatTests → t.op = some .ne → IllFormed c
  | unpaired {t : PropertyTest} : .property t ∈ c.flatTests → ¬ t.Paired → IllFormed c
  | unreadable {t : PropertyTest} {source detail : String} : .property t ∈ c.flatTests →
      t.operand = .pattern source → PatternReader.read source = .error detail → IllFormed c

section Clauses

variable [PatternReader] {index : Nat} {template : Template} {s s' : Scope} {sites : List Site}
  {atoms : List Atom} {c : Clause} {t : PropertyTest} {rule : String} {cs : List Clause}
  {ps : List ClausePattern}

lemma Run.legal (h : Run index template s sites atoms s') : ∀ site ∈ sites, site.Legal := by
  induction h with
  | nil s => simp
  | cons hs _ ih =>
    rw [List.forall_mem_cons]
    exact ⟨(Site.exists_kindIn.mp ⟨_, hs.kind⟩).1, ih⟩

lemma Clause.resolve_legal {p : ClausePattern} (h : c.resolve index s = (.ok p, s')) :
    c.InOrder ∧ ∀ t, .property t ∈ c.flatTests → t.Legal := by
  obtain ⟨shape, hshape, _, _, hrun⟩ := Clause.resolve_ok.mp h
  refine ⟨Clause.exists_shape.mp ⟨shape, hshape⟩, fun t ht => ?_⟩
  apply hrun.legal (.test (.property t))
  apply List.mem_cons_of_mem
  exact List.mem_map_of_mem ht

namespace PropertyTest.Legal

lemma op_ne (h : t.Legal) : t.op ≠ some .ne := by
  obtain ⟨path, tag, op, operand⟩ := t
  rintro rfl
  cases operand <;> simp [Legal] at h

lemma paired (h : t.Legal) : t.Paired := by
  obtain ⟨path, tag, op, operand⟩ := t
  cases op with
  | none => cases operand <;> exact h
  | some op =>
    cases operand with
    | pattern source => exact h.1
    | _ => exact h

lemma readable {source : String} (h : t.Legal) (ho : t.operand = .pattern source) :
    ∃ m, PatternReader.read source = .ok m := by
  obtain ⟨path, tag, op, operand⟩ := t
  obtain rfl : operand = .pattern source := ho
  cases op with
  | none => exact h.elim
  | some op => exact h.2

end PropertyTest.Legal

lemma Clause.IllFormed.not_legal (h : c.IllFormed) :
    ¬ (c.InOrder ∧ ∀ t, .property t ∈ c.flatTests → t.Legal) := by
  rintro ⟨⟨modifiers, target, tag, block, hm, htokens⟩, hlegal⟩
  cases h with
  | misplaced h => exact h modifiers target tag block htokens
  | existing h =>
    rw [htokens, (Shape.modifiers_inOrder modifiers target tag block).1] at h
    exact hm h
  | disallowed ht hop => exact (hlegal _ ht).op_ne hop
  | unpaired ht hp => exact hp (hlegal _ ht).paired
  | unreadable ht ho hrefused =>
    obtain ⟨m, hm⟩ := (hlegal _ ht).readable ho
    rw [hrefused] at hm
    cases hm

lemma compileRow_resolves (h : compileRow rule index s cs = .ok ps) :
    ∀ c ∈ cs, ∃ i s₁ p s₂, c.resolve i s₁ = (.ok p, s₂) := by
  induction cs generalizing index s ps with
  | nil => simp
  | cons c cs ih =>
    obtain ⟨p, s₁, rest, hp, hr, rfl⟩ := compileRow_cons.mp h
    exact List.forall_mem_cons.mpr ⟨⟨index, s, p, s₁, hp⟩, ih hr⟩

lemma not_illFormed_of_assemble {α : Type} {priority : Int32} {action : α}
    {rows : List (List Clause)} {rules : List (Rule α)} {row : List Clause}
    (h : assemble rule priority action rows = .ok rules) (hrow : row ∈ rows) (hc : c ∈ row) :
    ¬ c.IllFormed := by
  obtain ⟨_, pattern, hv, _⟩ := Condition.forall₂_left (assemble_ok.mp h) hrow
  obtain ⟨ps, hps, _⟩ := compileVariant_ok.mp hv
  obtain ⟨i, s₁, p, s₂, hp⟩ := compileRow_resolves hps c hc
  intro hill
  exact hill.not_legal (Clause.resolve_legal hp)

end Clauses

namespace Definition

variable {α : Type} {d : Definition} {limits : Limits} {action : α}

lemma exists_variant_at (hfull : ¬ d.HasEmptyGroup) {context : Condition.Context} {c : Clause}
    (hfill : context.fill (.clause c) = d.condition) :
    ∃ (i : Nat) (before after : List Clause), d.variants[i]? = some (before ++ c :: after) ∧
      ∀ c', (context.fill (.clause c')).normalForm.disjuncts[i]? =
        some (before ++ c' :: after) := by
  have hnone := not_hasEmptyGroup_condition.mpr hfull
  rw [← hfill] at hnone
  obtain ⟨i, before, after, hrow⟩ := Condition.exists_row_at context hnone
  refine ⟨i, before, after, ?_, hrow⟩
  rw [variants, ← hfill]
  exact hrow c

lemma compile_of_variantCount_le [PatternReader] (hfull : ¬ d.HasEmptyGroup)
    (hwithin : ∀ limit, limits.maxVariants = some limit → d.condition.variantCount ≤ limit) :
    d.compile limits action = assemble d.name d.effectivePriority action d.variants := by
  apply compile_of_within hfull
  intro limit hl hm
  have hle := hwithin limit hm
  rw [Condition.variantCount_eq] at hle
  by_contra hlt
  have hmany : limit < saturate d.variants.length := (lt_saturate hl).mpr (by omega)
  exact absurd hle (Nat.not_le.mpr hmany)

end Definition

theorem compile_refuses_illFormed [PatternReader] {α : Type} (d : Definition) (limits : Limits)
    (action : α) (hfull : ¬ d.HasEmptyGroup)
    (hwithin : ∀ limit, limits.maxVariants = some limit → d.condition.variantCount ≤ limit) :
    (∀ (context : Condition.Context) (c : Clause), context.fill (.clause c) = d.condition →
      ∃ (i : Nat) (before after : List Clause), d.variants[i]? = some (before ++ c :: after) ∧
        ∀ c', (context.fill (.clause c')).normalForm.disjuncts[i]? =
          some (before ++ c' :: after)) ∧
    ∀ c ∈ d.condition.leaves, c.IllFormed →
      ∃ index fault, d.compile limits action = .error (.inClause d.name index fault) := by
  refine ⟨fun context c => Definition.exists_variant_at hfull, fun c hc hill => ?_⟩
  obtain ⟨context, hfill⟩ := Condition.mem_leaves_iff.mp hc
  obtain ⟨i, before, after, hrow, _⟩ := Definition.exists_variant_at hfull hfill
  rw [Definition.compile_of_variantCount_le hfull hwithin]
  cases hr : assemble d.name d.effectivePriority action d.variants with
  | error fault =>
    obtain ⟨index, e, rfl⟩ := Definition.assemble_variants_error hfull hr
    exact ⟨index, e, rfl⟩
  | ok rules =>
    have hmem := List.mem_of_getElem? hrow
    exact (not_illFormed_of_assemble hr hmem (by simp) hill).elim

def unclosed : Clause := ⟨[.target "Quote", .tests [
  .property ⟨⟨["ask"]⟩, none, some .gt,
    .nested ⟨⟨["note"]⟩, none, some .matching, .pattern "(a"⟩⟩]]⟩

def hiddenPattern : Definition where
  name := "audit"
  priority := none
  conditions := [
    .clause ⟨[.target "Order"]⟩,
    .group .or [
      .clause ⟨[.target "Trade"]⟩,
      .group .and [.group .or [.clause unclosed, .clause ⟨[.target "Bid"]⟩],
        .clause ⟨[.target "Order"]⟩]]]

open scoped Regex

theorem hiddenPattern_refused :
    (¬ hiddenPattern.HasEmptyGroup ∧ hiddenPattern.condition.variantCount = 3) ∧
      (unclosed ∈ hiddenPattern.condition.leaves ∧ unclosed.IllFormed) ∧
      (∃ row ∈ hiddenPattern.variants, unclosed ∈ row) ∧
        ∃ index fault,
          hiddenPattern.compile ⟨some 3⟩ () = .error (.inClause "audit" index fault) := by
  have hfull : ¬ hiddenPattern.HasEmptyGroup := by
    rw [← Definition.not_hasEmptyGroup_condition, ← Condition.emptyGroup?_eq_none]
    rfl
  have hcount : hiddenPattern.condition.variantCount = 3 := rfl
  let context : Condition.Context :=
    .inside .and [.clause ⟨[.target "Order"]⟩] (.inside .or [.clause ⟨[.target "Trade"]⟩]
      (.inside .and [] (.inside .or [] .here [.clause ⟨[.target "Bid"]⟩])
        [.clause ⟨[.target "Order"]⟩]) []) []
  have hfill : context.fill (.clause unclosed) = hiddenPattern.condition := rfl
  have hleaf : unclosed ∈ hiddenPattern.condition.leaves :=
    Condition.mem_leaves_iff.mpr ⟨context, hfill⟩
  have hill : unclosed.IllFormed := .unreadable List.mem_cons_self rfl rfl
  have hwithin : ∀ limit, (⟨some 3⟩ : Limits).maxVariants = some limit →
      hiddenPattern.condition.variantCount ≤ limit := by
    rintro limit ⟨⟩
    exact Nat.le_of_eq hcount
  obtain ⟨hplaces, hrefused⟩ := compile_refuses_illFormed hiddenPattern ⟨some 3⟩ () hfull hwithin
  obtain ⟨i, before, after, hrow, _⟩ := hplaces context unclosed hfill
  exact ⟨⟨hfull, hcount⟩, ⟨hleaf, hill⟩, ⟨_, List.mem_of_getElem? hrow, by simp⟩,
    hrefused unclosed hleaf hill⟩

end Antecedent
