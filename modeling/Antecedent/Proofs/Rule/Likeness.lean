import Antecedent.Proofs.Pattern.Likeness
import Antecedent.Proofs.Rule.Budget

namespace Antecedent

inductive Pattern.Alike (l : Likeness) : Pattern → Pattern → Prop
  | clause {p q : ClausePattern} : p.Alike l q → Alike l (.clause p) (.clause q)
  | and {a b c d : Pattern} : Alike l a c → Alike l b d → Alike l (.and a b) (.and c d)

structure Rule.Alike {α : Type} (l : Likeness) (r r' : Rule α) : Prop where
  name : r'.name = r.name
  pattern : r.pattern.Alike l r'.pattern
  action : r'.action = r.action
  priority : r'.priority = r.priority

def CompileFault.SamePlace (e e' : CompileFault) : Prop :=
  e'.kind = e.kind ∧ e'.clause? = e.clause?

structure Definition.Alike (l : Likeness) (d d' : Definition) : Prop where
  name : d'.name = d.name
  priority : d'.priority = d.priority
  hasEmptyGroup : d.HasEmptyGroup ↔ d'.HasEmptyGroup
  variants : List.Forall₂ (List.Forall₂ (Clause.Alike l)) d.variants d'.variants

variable {α : Type} {l : Likeness} {rule : String}

lemma Pattern.ofClauses?_alike {ps qs : List ClausePattern} (hne : ps ≠ [])
    (h : List.Forall₂ (ClausePattern.Alike l) ps qs) :
    ∃ a b, ofClauses? ps = some a ∧ ofClauses? qs = some b ∧ a.Alike l b := by
  cases h with
  | nil => exact (hne rfl).elim
  | cons hp hps =>
    refine ⟨_, _, rfl, rfl, ?_⟩
    refine List.rel_foldl ?_ (.clause hp) hps
    intro a b hab p q hpq
    exact .and hab (.clause hpq)

variable [PatternReader] (hl : l.name.Injective)
include hl

lemma compileRow_alike {index : Nat} {s : Scope} {cs ds : List Clause}
    (h : List.Forall₂ (Clause.Alike l) cs ds) :
    Agree CompileFault.SamePlace (List.Forall₂ (ClausePattern.Alike l))
      (compileRow rule index s cs) (compileRow rule index (s.rename l.name) ds) := by
  induction h generalizing index s with
  | nil => exact .ok .nil
  | @cons c d cs ds hc _ ih =>
    have hresolve : Scoped.Parallel l.name (ClausePattern.Alike l) (c.resolve index)
        (d.resolve index) := Clause.resolve_alike hl hc
    obtain ⟨hagree, hscope⟩ := hresolve s
    rw [compileRow, compileRow]
    rcases hr : c.resolve index s with ⟨x, s₁⟩
    rcases hr' : d.resolve index (s.rename l.name) with ⟨y, s₂⟩
    rw [hr, hr'] at hagree hscope
    obtain rfl : s₂ = s₁.rename l.name := hscope
    cases hagree with
    | ok hp =>
      apply ih.map
      intro ps qs hps
      exact .cons hp hps
    | error he => exact .error ⟨he, rfl⟩

lemma compileVariant_alike {row row' : List Clause} (h : List.Forall₂ (Clause.Alike l) row row') :
    Agree CompileFault.SamePlace (Pattern.Alike l) (compileVariant rule row)
      (compileVariant rule row') := by
  apply (compileRow_alike hl h (s := .empty)).bind
  intro ps qs hps
  by_cases hne : ps = []
  · subst hne
    cases hps
    exact .error ⟨rfl, rfl⟩
  · obtain ⟨a, b, ha, hb, hab⟩ := Pattern.ofClauses?_alike hne hps
    rw [ha, hb]
    exact .ok hab

lemma assemble_alike {priority : Int32} {action : α} {rows rows' : List (List Clause)}
    (h : List.Forall₂ (List.Forall₂ (Clause.Alike l)) rows rows') :
    Agree CompileFault.SamePlace (List.Forall₂ (Rule.Alike l))
      (assemble rule priority action rows) (assemble rule priority action rows') := by
  induction h with
  | nil => exact .ok .nil
  | cons hrow _ ih =>
    apply (compileVariant_alike hl hrow).bind
    intro a b hab
    apply ih.map
    intro rules rules' hrules
    exact .cons ⟨rfl, hab, rfl, rfl⟩ hrules

lemma Definition.compile_alike {d d' : Definition} (h : d.Alike l d') (limits : Limits)
    (action : α) :
    Agree CompileFault.SamePlace (List.Forall₂ (Rule.Alike l)) (d.compile limits action)
      (d'.compile limits action) := by
  -- Alike definitions have as many variants, so limits cannot tell them apart.
  by_cases he : d.HasEmptyGroup
  · obtain ⟨reason, hr⟩ := compile_of_hasEmptyGroup he limits action
    obtain ⟨reason', hr'⟩ := compile_of_hasEmptyGroup (h.hasEmptyGroup.mp he) limits action
    rw [hr, hr']
    exact .error ⟨rfl, rfl⟩
  · have he' : ¬ d'.HasEmptyGroup := fun hd' => he (h.hasEmptyGroup.mpr hd')
    rw [compile_of_variants he, compile_of_variants he', h.name, effectivePriority,
      effectivePriority, h.priority, ← h.variants.length_eq]
    cases limits.exceeded? (saturate d.variants.length) with
    | some limit => exact .error ⟨rfl, rfl⟩
    | none => exact assemble_alike hl h.variants

end Antecedent
