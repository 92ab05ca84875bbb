import Antecedent.Proofs.Condition.Built

namespace Antecedent.Condition

inductive HasEmptyGroup : Condition → Prop
  | here (k : Connective) : HasEmptyGroup (.group k [])
  | inside {k : Connective} {members : List Condition} {c : Condition} : c ∈ members →
      HasEmptyGroup c → HasEmptyGroup (.group k members)

variable {k : Connective} {c : Condition} {members : List Condition}

lemma not_hasEmptyGroup_clause (c : Clause) : ¬ (clause c).HasEmptyGroup := by
  rintro ⟨⟩

lemma not_hasEmptyGroup_group : ¬ (group k members).HasEmptyGroup ↔
    members ≠ [] ∧ ∀ c ∈ members, ¬ c.HasEmptyGroup := by
  constructor
  · intro h
    constructor
    · rintro rfl
      exact h (.here k)
    · intro c hc he
      exact h (.inside hc he)
  · rintro ⟨hne, hm⟩ h
    cases h with
    | here => exact hne rfl
    | inside hc he => exact hm _ hc he

lemma emptyGroup?_eq_none : c.emptyGroup? = none ↔ ¬ c.HasEmptyGroup := by
  induction c using tree_induction with
  | clause c => simp [emptyGroup?, not_hasEmptyGroup_clause]
  | group k members ih =>
    rw [not_hasEmptyGroup_group]
    by_cases hne : members = []
    · subst hne
      simp [emptyGroup?]
    · rw [emptyGroup?_group hne, emptyGroupIn?_eq_none]
      constructor
      · intro h
        exact ⟨hne, fun c hc => (ih c hc).mp (h c hc)⟩
      · rintro ⟨_, h⟩ c hc
        exact (ih c hc).mpr (h c hc)

lemma row_ne_nil (h : ¬ c.HasEmptyGroup) : ∀ row ∈ c.normalForm.disjuncts, row ≠ [] := by
  have hrows : ∀ row ∈ c.normalForm.disjuncts, RowOf (fun _ => True) row := by
    induction c using tree_induction with
    | clause c => simp [RowOf]
    | group k members ih =>
      obtain ⟨hne, hm⟩ := not_hasEmptyGroup_group.mp h
      exact rows_of_group hne fun c hc => ih c hc (hm c hc)
  intro row hrow
  exact (hrows row hrow).1

lemma and_disjuncts_ne_nil (h : ∀ c ∈ members, c.normalForm.disjuncts ≠ []) :
    (group .and members).normalForm.disjuncts ≠ [] := by
  induction members with
  | nil => simp
  | cons c cs ih =>
    obtain ⟨hc, hcs⟩ := List.forall_mem_cons.mp h
    obtain ⟨row, hrow⟩ := List.exists_mem_of_ne_nil _ hc
    obtain ⟨rest, hrest⟩ := List.exists_mem_of_ne_nil _ (ih hcs)
    rw [disjuncts_and_cons]
    exact List.ne_nil_of_mem (mem_continueRows.mpr ⟨row, hrow, rest, hrest, rfl⟩)

lemma disjuncts_ne_nil (h : ¬ c.HasEmptyGroup) : c.normalForm.disjuncts ≠ [] := by
  induction c using tree_induction with
  | clause c => simp
  | group k members ih =>
    obtain ⟨hne, hm⟩ := not_hasEmptyGroup_group.mp h
    cases k with
    | and => exact and_disjuncts_ne_nil fun c hc => ih c hc (hm c hc)
    | or =>
      obtain ⟨c, cs, rfl⟩ := List.exists_cons_of_ne_nil hne
      have hc := ih c List.mem_cons_self (hm c List.mem_cons_self)
      simp [hc]

end Antecedent.Condition
