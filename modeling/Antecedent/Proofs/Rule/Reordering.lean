import Antecedent.Proofs.Condition.Leaves
import Antecedent.Proofs.Rule.Budget
import Antecedent.Regex.Reading
import Mathlib.Data.List.Perm.Basic
import Mathlib.Logic.Relation

/-! The members of OR groups in another order. The rows come in another order, too, and so do the
rules. -/

namespace Antecedent

namespace Condition

variable {k : Connective} {t t' : Condition} {members members' : List Condition}

inductive Shuffled : Condition → Condition → Prop
  | at (context : Context) {members members' : List Condition} : members.Perm members' →
      Shuffled (context.fill (.group .or members)) (context.fill (.group .or members'))

abbrev Reordered : Condition → Condition → Prop := Relation.ReflTransGen Shuffled

lemma perm_continueRows {rows rows' alternatives alternatives' : List (List Clause)}
    (h : rows.Perm rows') (ha : alternatives.Perm alternatives') :
    (continueRows rows alternatives).Perm (continueRows rows' alternatives') :=
  h.flatMap fun row _ => ha.map (row ++ ·)

lemma perm_disjuncts_or (h : members.Perm members') :
    (group .or members).normalForm.disjuncts.Perm (group .or members').normalForm.disjuncts := by
  induction h with
  | nil => exact .refl _
  | cons t _ ih =>
    rw [disjuncts_or_cons, disjuncts_or_cons]
    exact ih.append_left _
  | swap t t' ts =>
    simp only [disjuncts_or_cons, ← List.append_assoc]
    exact List.perm_append_comm.append_right _
  | trans _ _ ih ih' => exact ih.trans ih'

lemma perm_disjuncts_fill (context : Context)
    (h : t.normalForm.disjuncts.Perm t'.normalForm.disjuncts) :
    (context.fill t).normalForm.disjuncts.Perm (context.fill t').normalForm.disjuncts := by
  induction context with
  | here => exact h
  | inside k before context after ih =>
    rw [Context.fill, Context.fill]
    cases k with
    | and =>
      rw [disjuncts_and_append, disjuncts_and_append, disjuncts_and_cons, disjuncts_and_cons]
      exact perm_continueRows (.refl _) (perm_continueRows ih (.refl _))
    | or =>
      rw [disjuncts_or_append, disjuncts_or_append, disjuncts_or_cons, disjuncts_or_cons]
      exact (ih.append_right _).append_left _

lemma hasEmptyGroup_fill (context : Context) (h : t.HasEmptyGroup → t'.HasEmptyGroup) :
    (context.fill t).HasEmptyGroup → (context.fill t').HasEmptyGroup := by
  induction context with
  | here => exact h
  | inside k before context after ih =>
    rw [Context.fill, Context.fill, ← not_imp_not, not_hasEmptyGroup_group, not_hasEmptyGroup_group,
      List.forall_mem_append, List.forall_mem_append, List.forall_mem_cons, List.forall_mem_cons]
    rintro ⟨_, hbefore, hfill, hafter⟩
    exact ⟨by simp, hbefore, fun he => hfill (ih he), hafter⟩

lemma hasEmptyGroup_perm (h : members.Perm members') (he : (group k members).HasEmptyGroup) :
    (group k members').HasEmptyGroup := by
  cases he with
  | here =>
    obtain rfl := h.nil_eq
    exact .here k
  | inside ht he => exact .inside (h.mem_iff.mp ht) he

namespace Shuffled

lemma symm (h : Shuffled t t') : Shuffled t' t := by
  obtain ⟨context, hp⟩ := h
  exact .at context hp.symm

lemma perm_disjuncts (h : Shuffled t t') :
    t.normalForm.disjuncts.Perm t'.normalForm.disjuncts := by
  obtain ⟨context, hp⟩ := h
  exact perm_disjuncts_fill context (perm_disjuncts_or hp)

lemma hasEmptyGroup (h : Shuffled t t') (he : t.HasEmptyGroup) : t'.HasEmptyGroup := by
  obtain ⟨context, hp⟩ := h
  exact hasEmptyGroup_fill context (hasEmptyGroup_perm hp) he

end Shuffled

namespace Reordered

lemma symm (h : Reordered t t') : Reordered t' t := by
  induction h with
  | refl => exact .refl
  | tail _ hs ih => exact .head hs.symm ih

lemma perm_disjuncts (h : Reordered t t') :
    t.normalForm.disjuncts.Perm t'.normalForm.disjuncts := by
  induction h with
  | refl => exact .refl _
  | tail _ hs ih => exact ih.trans hs.perm_disjuncts

lemma hasEmptyGroup (h : Reordered t t') (he : t.HasEmptyGroup) : t'.HasEmptyGroup := by
  induction h with
  | refl => exact he
  | tail _ hs ih => exact hs.hasEmptyGroup ih

end Reordered

end Condition

section Rows

variable {α : Type} {rule : String} {priority : Int32} {action : α}
  {rows rows' : List (List Clause)} {rules : List (Rule α)}

lemma perm_assemble [PatternReader] (h : rows.Perm rows')
    (hr : assemble rule priority action rows = .ok rules) :
    ∃ rules', assemble rule priority action rows' = .ok rules' ∧ rules.Perm rules' := by
  obtain ⟨rules', hr', hp⟩ := List.perm_comp_forall₂ h.symm (assemble_ok.mp hr)
  exact ⟨rules', assemble_ok.mpr hr', hp.symm⟩

end Rows

namespace Definition

structure Reordered (d d' : Definition) : Prop where
  name : d'.name = d.name
  priority : d'.priority = d.priority
  condition : d.condition.Reordered d'.condition

variable {α : Type} {d d' : Definition} {limits : Limits} {action : α} {rules : List (Rule α)}

lemma Reordered.symm (h : d.Reordered d') : d'.Reordered d :=
  ⟨h.name.symm, h.priority.symm, h.condition.symm⟩

lemma not_hasEmptyGroup_of_ok [PatternReader] (hr : d.compile limits action = .ok rules) :
    ¬ d.HasEmptyGroup := by
  intro he
  obtain ⟨_, hmalformed⟩ := compile_of_hasEmptyGroup he limits action
  rw [hr] at hmalformed
  cases hmalformed

lemma compile_of_reordered [PatternReader] (h : d.Reordered d')
    (hr : d.compile limits action = .ok rules) :
    ∃ rules', d'.compile limits action = .ok rules' ∧ rules.Perm rules' := by
  have hfull := not_hasEmptyGroup_of_ok hr
  have hfull' : ¬ d'.HasEmptyGroup := by
    rw [← not_hasEmptyGroup_condition] at hfull ⊢
    exact fun he => hfull (h.condition.symm.hasEmptyGroup he)
  have hrows : d.variants.Perm d'.variants := h.condition.perm_disjuncts
  rw [compile_of_variants hfull] at hr
  rw [compile_of_variants hfull', ← hrows.length_eq, h.name, effectivePriority, h.priority]
  cases hx : limits.exceeded? (saturate d.variants.length) with
  | some limit =>
    rw [hx] at hr
    cases hr
  | none =>
    rw [hx] at hr
    exact perm_assemble hrows hr

end Definition

theorem compile_reordered [PatternReader] {α : Type} {d d' : Definition} (h : d.Reordered d')
    (limits : Limits) (action : α) :
    ((∃ rules, d.compile limits action = .ok rules) ↔
      ∃ rules, d'.compile limits action = .ok rules) ∧
    ∀ rules rules', d.compile limits action = .ok rules → d'.compile limits action = .ok rules' →
      rules.Perm rules' := by
  refine ⟨⟨?_, ?_⟩, ?_⟩
  · rintro ⟨rules, hr⟩
    obtain ⟨rules', hr', _⟩ := Definition.compile_of_reordered h hr
    exact ⟨rules', hr'⟩
  · rintro ⟨rules, hr⟩
    obtain ⟨rules', hr', _⟩ := Definition.compile_of_reordered h.symm hr
    exact ⟨rules', hr'⟩
  · intro rules rules' hr hr'
    obtain ⟨_, he, hp⟩ := Definition.compile_of_reordered h hr
    obtain rfl := Except.ok.inj (he.symm.trans hr')
    exact hp

def sale (buyers extras : List Condition) : Definition where
  name := "sale"
  priority := some 4
  conditions := [
    .group .or buyers,
    .clause ⟨[.target "Order", .tests [
      .property ⟨⟨["buyer"]⟩, none, some .eq, .refs [.named "b"]⟩]]⟩,
    .group .or [
      .clause ⟨[.target "Pickup"]⟩,
      .group .and [.group .or extras, .clause ⟨[.target "Parcel"]⟩]]]

lemma sale_reordered {buyers buyers' extras extras' : List Condition} (hb : buyers.Perm buyers')
    (he : extras.Perm extras') : (sale buyers extras).Reordered (sale buyers' extras') where
  name := rfl
  priority := rfl
  condition := by
    let top : Condition.Context := .inside .and [] .here (sale buyers extras).conditions.tail
    let deep : Condition.Context :=
      .inside .and ((sale buyers' extras).conditions.take 2)
        (.inside .or [.clause ⟨[.target "Pickup"]⟩]
          (.inside .and [] .here [.clause ⟨[.target "Parcel"]⟩]) []) []
    have hfirst := Condition.Shuffled.at top hb
    have hsecond := Condition.Shuffled.at deep he
    exact (Relation.ReflTransGen.single hfirst).tail hsecond

def customers : List Condition :=
  [.clause ⟨[.target "Customer", .tag (.named "b")]⟩,
    .clause ⟨[.target "Guest", .tag (.named "b")]⟩]

def wrappings : List Condition := [.clause ⟨[.target "Gift"]⟩, .clause ⟨[.target "Express"]⟩]

open scoped Regex

theorem sale_reversed :
    (sale customers wrappings).Reordered (sale customers.reverse wrappings.reverse) ∧
      ∃ rules rules', (sale customers wrappings).compile ⟨some 6⟩ () = .ok rules ∧
        (sale customers.reverse wrappings.reverse).compile ⟨some 6⟩ () = .ok rules' ∧
          rules.length = 6 ∧ rules.Perm rules' := by
  have h := sale_reordered customers.reverse_perm.symm wrappings.reverse_perm.symm
  obtain ⟨hiff, hperm⟩ := compile_reordered h ⟨some 6⟩ ()
  obtain ⟨rules, hr, hlength⟩ : ∃ rules,
      (sale customers wrappings).compile ⟨some 6⟩ () = .ok rules ∧ rules.length = 6 :=
    ⟨_, rfl, rfl⟩
  obtain ⟨rules', hr'⟩ := hiff.mp ⟨rules, hr⟩
  exact ⟨h, rules, rules', hr, hr', hlength, hperm rules rules' hr hr'⟩

end Antecedent
