import Antecedent.Proofs.Condition.Disjuncts

namespace Antecedent.Condition

inductive Built (leaf : Clause → Prop) : Condition → Prop
  | clause {c : Clause} : leaf c → Built leaf (.clause c)
  | group {k : Connective} {members : List Condition} : 2 ≤ members.length →
      (∀ c ∈ members, Built leaf c) → Built leaf (.group k members)

variable {leaf : Clause → Prop} {k : Connective} {c : Condition} {members : List Condition}

lemma Built.mono {leaf' : Clause → Prop} (h : c.Built leaf) (hl : ∀ c, leaf c → leaf' c) :
    c.Built leaf' := by
  induction h with
  | clause hc => exact .clause (hl _ hc)
  | group hm _ ih => exact .group hm ih

lemma emptyGroup?_group (h : members ≠ []) :
    (group k members).emptyGroup? = emptyGroupIn? members := by
  cases members with
  | nil => exact (h rfl).elim
  | cons c cs => rw [emptyGroup?]

lemma emptyGroupIn?_eq_none :
    emptyGroupIn? members = none ↔ ∀ c ∈ members, c.emptyGroup? = none := by
  induction members with
  | nil => simp [emptyGroupIn?]
  | cons c cs ih =>
    rw [emptyGroupIn?, List.forall_mem_cons, ← ih]
    cases c.emptyGroup? <;> simp

lemma Built.emptyGroup? (h : c.Built leaf) : c.emptyGroup? = none := by
  induction h with
  | clause _ => rw [Condition.emptyGroup?]
  | @group k members hl _ ih =>
    have hne : members ≠ [] := by
      rintro rfl
      simp at hl
    rw [emptyGroup?_group hne]
    exact emptyGroupIn?_eq_none.mpr ih

def RowOf (leaf : Clause → Prop) (row : List Clause) : Prop := row ≠ [] ∧ ∀ c ∈ row, leaf c

lemma rowOf_append {row row' : List Clause} (h : RowOf leaf row) (h' : ∀ c ∈ row', leaf c) :
    RowOf leaf (row ++ row') := by
  refine ⟨by simp [h.1], fun c hc => ?_⟩
  rcases List.mem_append.mp hc with hc | hc
  · exact h.2 c hc
  · exact h' c hc

lemma rows_of_and (h : ∀ c ∈ members, ∀ row ∈ c.normalForm.disjuncts, RowOf leaf row) :
    ∀ row ∈ (group .and members).normalForm.disjuncts,
      (members ≠ [] → row ≠ []) ∧ ∀ c ∈ row, leaf c := by
  induction members with
  | nil => simp
  | cons c cs ih =>
    obtain ⟨hc, hcs⟩ := List.forall_mem_cons.mp h
    intro row hrow
    rw [disjuncts_and_cons, mem_continueRows] at hrow
    obtain ⟨first, hf, rest, hr, rfl⟩ := hrow
    have hboth := rowOf_append (hc first hf) (ih hcs rest hr).2
    exact ⟨fun _ => hboth.1, hboth.2⟩

lemma rows_of_or (h : ∀ c ∈ members, ∀ row ∈ c.normalForm.disjuncts, RowOf leaf row) :
    ∀ row ∈ (group .or members).normalForm.disjuncts, RowOf leaf row := by
  induction members with
  | nil => simp
  | cons c cs ih =>
    obtain ⟨hc, hcs⟩ := List.forall_mem_cons.mp h
    intro row hrow
    rw [disjuncts_or_cons, List.mem_append] at hrow
    rcases hrow with hrow | hrow
    · exact hc row hrow
    · exact ih hcs row hrow

lemma rows_of_group (hne : members ≠ [])
    (h : ∀ c ∈ members, ∀ row ∈ c.normalForm.disjuncts, RowOf leaf row) :
    ∀ row ∈ (group k members).normalForm.disjuncts, RowOf leaf row := by
  cases k with
  | or => exact rows_of_or h
  | and =>
    intro row hrow
    have hr := rows_of_and h row hrow
    exact ⟨hr.1 hne, hr.2⟩

lemma Built.rows (h : c.Built leaf) : ∀ row ∈ c.normalForm.disjuncts, RowOf leaf row := by
  induction h with
  | clause hc => simpa [RowOf] using hc
  | @group k members hl _ ih =>
    apply rows_of_group _ ih
    rintro rfl
    simp at hl

end Antecedent.Condition
