import Antecedent.Proofs.Condition.Leaves
import Mathlib.Logic.Relation

/-! Parentheses that can be set or left out: groups within groups of the same connective, and groups
with a single member. The rows are the same rows in the same order. -/

namespace Antecedent.Condition

variable {k : Connective} {t t' : Condition}

/-- A group within a group of its connective gives its members to the outer one, or some part of the
condition is put in a group of its own. -/
inductive Regrouped : Condition → Condition → Prop
  | splice (context : Context) (k : Connective) (before inner after : List Condition) :
      Regrouped (context.fill (.group k (before ++ .group k inner :: after)))
        (context.fill (.group k (before ++ (inner ++ after))))
  | wrap (context : Context) (k : Connective) (t : Condition) :
      Regrouped (context.fill t) (context.fill (.group k [t]))

lemma disjuncts_single (k : Connective) (t : Condition) :
    (group k [t]).normalForm.disjuncts = t.normalForm.disjuncts := by
  cases k <;> simp

lemma disjuncts_splice (k : Connective) (before inner after : List Condition) :
    (group k (before ++ .group k inner :: after)).normalForm.disjuncts =
      (group k (before ++ (inner ++ after))).normalForm.disjuncts := by
  cases k with
  | and => rw [disjuncts_and_append, disjuncts_and_cons, disjuncts_and_append before,
      disjuncts_and_append inner]
  | or => rw [disjuncts_or_append, disjuncts_or_cons, disjuncts_or_append before,
      disjuncts_or_append inner]

lemma disjuncts_fill_congr (context : Context)
    (h : t.normalForm.disjuncts = t'.normalForm.disjuncts) :
    (context.fill t).normalForm.disjuncts = (context.fill t').normalForm.disjuncts := by
  induction context with
  | here => exact h
  | inside k before context after ih =>
    rw [Context.fill, Context.fill]
    cases k with
    | and => rw [disjuncts_and_append, disjuncts_and_append, disjuncts_and_cons,
        disjuncts_and_cons, ih]
    | or => rw [disjuncts_or_append, disjuncts_or_append, disjuncts_or_cons, disjuncts_or_cons, ih]

lemma disjuncts_join (k : Connective) (c d : Condition) :
    (c.join k d).normalForm.disjuncts = (group k [c, d]).normalForm.disjuncts := by
  cases c with
  | clause c => rfl
  | group k' members =>
    rw [join]
    split
    · next hk =>
      subst hk
      exact (disjuncts_splice k' [] members [d]).symm
    · rfl

lemma disjuncts_and_join (c d : Condition) : (c.and d).normalForm.disjuncts =
    continueRows c.normalForm.disjuncts d.normalForm.disjuncts := by
  rw [Condition.and, disjuncts_join, disjuncts_and_cons, disjuncts_single]

lemma disjuncts_or_join (c d : Condition) : (c.or d).normalForm.disjuncts =
    c.normalForm.disjuncts ++ d.normalForm.disjuncts := by
  rw [Condition.or, disjuncts_join, disjuncts_or_cons, disjuncts_single]

lemma Regrouped.disjuncts_eq (h : Regrouped t t') :
    t.normalForm.disjuncts = t'.normalForm.disjuncts := by
  cases h with
  | splice context k before inner after =>
    exact disjuncts_fill_congr context (disjuncts_splice k before inner after)
  | wrap context k t => exact disjuncts_fill_congr context (disjuncts_single k t).symm

theorem regrouping_keeps_disjuncts :
    (∀ c d : Condition, (c.and d).normalForm.disjuncts =
      c.normalForm.disjuncts.flatMap fun row => d.normalForm.disjuncts.map (row ++ ·)) ∧
    (∀ c d : Condition, (c.or d).normalForm.disjuncts =
      c.normalForm.disjuncts ++ d.normalForm.disjuncts) ∧
    ∀ t t' : Condition, Relation.EqvGen Regrouped t t' →
      t.normalForm.disjuncts = t'.normalForm.disjuncts := by
  refine ⟨disjuncts_and_join, disjuncts_or_join, fun t t' h => ?_⟩
  induction h with
  | rel t t' h => exact h.disjuncts_eq
  | refl t => rfl
  | symm t t' _ ih => exact ih.symm
  | trans t t' t'' _ _ ih ih' => exact ih.trans ih'

end Antecedent.Condition
