import Antecedent.Proofs.Condition.Counts
import Antecedent.Proofs.Condition.EmptyGroups
import Antecedent.Proofs.Rule.Variants

/-! What a definition is refused for before its clauses are looked at: groups without members first,
then the number of its variants. -/

namespace Antecedent

lemma lt_saturate {limit n : Nat} (h : limit < countLimit) : limit < saturate n ↔ limit < n := by
  simp only [saturate]
  omega

namespace Limits

variable {limits : Limits} {limit n : Nat}

lemma exceeded?_of_lt (hm : limits.maxVariants = some limit) (h : limit < n) :
    limits.exceeded? n = some limit := by
  simp [exceeded?, hm, h]

lemma exceeded?_of_within
    (h : ∀ limit < countLimit, limits.maxVariants = some limit → n ≤ limit) :
    limits.exceeded? (saturate n) = none := by
  cases hm : limits.maxVariants with
  | none => simp [exceeded?, hm]
  | some limit =>
    have hle : saturate n ≤ limit := by
      have hexact : saturate n ≤ n := Nat.min_le_left n countLimit
      have hstop : saturate n ≤ countLimit := Nat.min_le_right n countLimit
      by_cases hl : limit < countLimit
      · exact Nat.le_trans hexact (h limit hl hm)
      · omega
    simp [exceeded?, hm, hle]

end Limits

lemma ClauseFault.kind_ne (e : ClauseFault) :
    e.kind ≠ .malformed ∧ e.kind ≠ .tooManyVariants := by
  cases e <;> exact ⟨by rintro ⟨⟩, by rintro ⟨⟩⟩

namespace Definition

def HasEmptyGroup (d : Definition) : Prop :=
  d.conditions = [] ∨ ∃ c ∈ d.conditions, c.HasEmptyGroup

def variants (d : Definition) : List (List Clause) := d.condition.normalForm.disjuncts

variable {α : Type} {d : Definition} {limits : Limits} {action : α} {fault : CompileFault}

lemma not_hasEmptyGroup_condition : ¬ d.condition.HasEmptyGroup ↔ ¬ d.HasEmptyGroup := by
  rw [condition, Condition.not_hasEmptyGroup_group, HasEmptyGroup, not_or]
  simp

lemma variants_ne_nil (h : ¬ d.HasEmptyGroup) : d.variants ≠ [] :=
  Condition.disjuncts_ne_nil (not_hasEmptyGroup_condition.mpr h)

variable [PatternReader]

lemma compile_of_hasEmptyGroup (h : d.HasEmptyGroup) (limits : Limits) (action : α) :
    ∃ reason, d.compile limits action = .error (.malformed d.name reason) := by
  rw [compile]
  split
  · exact ⟨_, rfl⟩
  · split
    · exact ⟨_, rfl⟩
    · next hnone =>
      have hfull := not_hasEmptyGroup_condition.mp (Condition.emptyGroup?_eq_none.mp hnone)
      exact (hfull h).elim

section Full

variable (h : ¬ d.HasEmptyGroup)
include h

lemma compile_of_full : d.compile limits action =
    (limits.exceeded? d.condition.variantCount).elim
      (assemble d.name d.effectivePriority action d.variants)
      fun limit => .error (.tooManyVariants d.name d.condition.variantCount limit) := by
  have hne : d.conditions ≠ [] := fun he => h (.inl he)
  have hfull := Condition.emptyGroup?_eq_none.mpr (not_hasEmptyGroup_condition.mpr h)
  rw [compile, if_neg (by simpa using hne), hfull]
  cases limits.exceeded? d.condition.variantCount <;> rfl

lemma compile_of_variants : d.compile limits action =
    (limits.exceeded? (saturate d.variants.length)).elim
      (assemble d.name d.effectivePriority action d.variants)
      fun limit => .error (.tooManyVariants d.name (saturate d.variants.length) limit) := by
  rw [compile_of_full h, Condition.variantCount_eq]
  rfl

lemma compile_of_exceeded {limit : Nat} (hl : limit < countLimit)
    (hlimits : limits.maxVariants = some limit) (hmany : limit < d.variants.length) :
    d.compile limits action =
      .error (.tooManyVariants d.name (saturate d.variants.length) limit) := by
  have hlt : limit < saturate d.variants.length := (lt_saturate hl).mpr hmany
  rw [compile_of_full h, Condition.variantCount_eq]
  exact congrArg (Option.elim · _ _) (Limits.exceeded?_of_lt hlimits hlt)

lemma compile_of_within
    (hwithin : ∀ limit < countLimit, limits.maxVariants = some limit → d.variants.length ≤ limit) :
    d.compile limits action = assemble d.name d.effectivePriority action d.variants := by
  have hnone := Limits.exceeded?_of_within hwithin
  rw [variants, ← Condition.variantCount_eq] at hnone
  rw [compile_of_full h, hnone]
  rfl

lemma assemble_variants_error
    (he : assemble d.name d.effectivePriority action d.variants = .error fault) :
    ∃ index e, fault = .inClause d.name index e := by
  obtain ⟨earlier, row, later, hrows, _, hv⟩ := assemble_error.mp he
  have hmem : row ∈ d.variants := by simp [hrows]
  have hne := Condition.row_ne_nil (not_hasEmptyGroup_condition.mpr h) row hmem
  obtain ⟨j, ⟨_, _, _, _, e, _, rfl⟩, _, _⟩ := exists_refusedAt ((compileVariant_error hne).mp hv)
  exact ⟨_, e, rfl⟩

lemma compile_tooManyVariants_iff {limit : Nat} (hl : limit < countLimit)
    (hlimits : limits.maxVariants = some limit) :
    (∃ fault, d.compile limits action = .error fault ∧ fault.kind = .tooManyVariants) ↔
      limit < d.variants.length := by
  by_cases hmany : limit < d.variants.length
  · simp only [hmany, iff_true]
    exact ⟨_, compile_of_exceeded h hl hlimits hmany, rfl⟩
  · simp only [hmany, iff_false]
    rintro ⟨fault, he, hkind⟩
    have hwithin : ∀ bound < countLimit, limits.maxVariants = some bound →
        d.variants.length ≤ bound := by
      intro bound _ hb
      obtain rfl := Option.some.inj (hlimits.symm.trans hb)
      omega
    rw [compile_of_within h hwithin] at he
    obtain ⟨_, e, rfl⟩ := assemble_variants_error h he
    exact e.kind_ne.2 hkind

lemma compile_unbounded (action : α) : d.compile .unbounded action =
    assemble d.name d.effectivePriority action d.variants :=
  compile_of_within h (by rintro limit _ ⟨⟩)

lemma not_malformed (he : d.compile limits action = .error fault) : fault.kind ≠ .malformed := by
  rw [compile_of_full h] at he
  cases hx : limits.exceeded? d.condition.variantCount with
  | none =>
    rw [hx] at he
    obtain ⟨_, e, rfl⟩ := assemble_variants_error h he
    exact e.kind_ne.1
  | some limit =>
    rw [hx] at he
    cases he
    rintro ⟨⟩

end Full

lemma compile_malformed_iff (d : Definition) (limits : Limits) (action : α) :
    (∃ fault, d.compile limits action = .error fault ∧ fault.kind = .malformed) ↔
      d.HasEmptyGroup := by
  constructor
  · rintro ⟨fault, he, hkind⟩
    by_contra h
    exact not_malformed h he hkind
  · intro h
    obtain ⟨reason, he⟩ := compile_of_hasEmptyGroup h limits action
    exact ⟨_, he, rfl⟩

end Definition

/-- Groups without members are found whatever the limits are, and too many variants whatever is wrong
with the clauses. -/
theorem compile_checks_in_order [PatternReader] {α : Type} (d : Definition) (limits : Limits)
    (action : α) :
    ((∃ fault, d.compile limits action = .error fault ∧ fault.kind = .malformed) ↔
      d.HasEmptyGroup) ∧
    (¬ d.HasEmptyGroup →
      (∀ limit < UInt64.size - 1, limits.maxVariants = some limit →
        ((∃ fault, d.compile limits action = .error fault ∧ fault.kind = .tooManyVariants) ↔
          limit < d.variants.length)) ∧
      ((∀ limit < UInt64.size - 1, limits.maxVariants = some limit → d.variants.length ≤ limit) →
        d.compile limits action = d.compile .unbounded action ∧
          ∀ rules, d.compile limits action = .ok rules →
            rules.length = d.variants.length ∧ 1 ≤ rules.length)) := by
  refine ⟨d.compile_malformed_iff limits action, fun h => ⟨?_, fun hwithin => ⟨?_, ?_⟩⟩⟩
  · intro limit hl hlimits
    exact Definition.compile_tooManyVariants_iff h hl hlimits
  · rw [Definition.compile_of_within h hwithin, Definition.compile_unbounded h]
  · intro rules hr
    rw [Definition.compile_of_within h hwithin] at hr
    have hlength : d.variants.length = rules.length := (assemble_ok.mp hr).length_eq
    have hpos : 0 < d.variants.length := List.length_pos_iff.mpr (Definition.variants_ne_nil h)
    omega

end Antecedent
