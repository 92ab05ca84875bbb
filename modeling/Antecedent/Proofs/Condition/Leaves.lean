import Antecedent.Proofs.Condition.EmptyGroups

/-! The clauses of a condition at their places. Each of them turns up in a row of the normal form,
and rows consist of nothing else. -/

namespace Antecedent.Condition

variable {k : Connective} {c : Clause} {t : Condition} {members : List Condition}

inductive Context where
  | here
  | inside (k : Connective) (before : List Condition) (context : Context) (after : List Condition)

def Context.fill : Context → Condition → Condition
  | .here, t => t
  | .inside k before context after, t => .group k (before ++ context.fill t :: after)

lemma mem_leavesList : c ∈ leavesList members ↔ ∃ t ∈ members, c ∈ t.leaves := by
  induction members with
  | nil => simp [leavesList]
  | cons t ts ih => simp [leavesList, ih]

lemma mem_leaves_group : c ∈ (group k members).leaves ↔ ∃ t ∈ members, c ∈ t.leaves := by
  rw [leaves, mem_leavesList]

lemma mem_leaves_fill (context : Context) (c : Clause) : c ∈ (context.fill (.clause c)).leaves := by
  induction context with
  | here => simp [Context.fill, leaves]
  | inside k before context after ih =>
    rw [Context.fill, mem_leaves_group]
    exact ⟨_, by simp, ih⟩

lemma exists_context (h : c ∈ t.leaves) : ∃ context : Context, context.fill (.clause c) = t := by
  induction t using tree_induction with
  | clause d =>
    obtain rfl : c = d := by simpa [leaves] using h
    exact ⟨.here, rfl⟩
  | group k members ih =>
    obtain ⟨t, ht, hc⟩ := mem_leaves_group.mp h
    obtain ⟨context, rfl⟩ := ih t ht hc
    obtain ⟨before, after, rfl⟩ := List.append_of_mem ht
    exact ⟨.inside k before context after, rfl⟩

lemma mem_leaves_iff : c ∈ t.leaves ↔ ∃ context : Context, context.fill (.clause c) = t := by
  constructor
  · exact exists_context
  · rintro ⟨context, rfl⟩
    exact mem_leaves_fill context c

lemma mem_leaves_of_row {row : List Clause} (hr : row ∈ t.normalForm.disjuncts) (hc : c ∈ row) :
    c ∈ t.leaves := by
  induction t using member_induction generalizing row with
  | clause d =>
    obtain rfl : row = [d] := by simpa using hr
    simpa [leaves] using hc
  | nil k =>
    cases k with
    | and =>
      obtain rfl : row = [] := by simpa using hr
      simp at hc
    | or => simp at hr
  | cons k t ts ht hts =>
    rw [leaves] at hts
    rw [leaves, leavesList, List.mem_append]
    cases k with
    | and =>
      rw [disjuncts_and_cons, mem_continueRows] at hr
      obtain ⟨first, hf, rest, hr, rfl⟩ := hr
      exact (List.mem_append.mp hc).imp (ht hf) (hts hr)
    | or =>
      rw [disjuncts_or_cons, List.mem_append] at hr
      exact hr.imp (ht · hc) (hts · hc)

lemma disjuncts_and_append (before after : List Condition) :
    (group .and (before ++ after)).normalForm.disjuncts =
      continueRows (group .and before).normalForm.disjuncts
        (group .and after).normalForm.disjuncts := by
  induction before with
  | nil => simp
  | cons t ts ih => rw [List.cons_append, disjuncts_and_cons, ih, disjuncts_and_cons,
      continueRows_assoc]

lemma disjuncts_or_append (before after : List Condition) :
    (group .or (before ++ after)).normalForm.disjuncts =
      (group .or before).normalForm.disjuncts ++ (group .or after).normalForm.disjuncts := by
  induction before with
  | nil => simp
  | cons t ts ih => simp [ih]

lemma getElem?_continueRows {rows alternatives : List (List Clause)} {i j : Nat}
    {row row' : List Clause} (hi : rows[i]? = some row) (hj : alternatives[j]? = some row') :
    (continueRows rows alternatives)[i * alternatives.length + j]? = some (row ++ row') := by
  have hlt : j < alternatives.length := (List.getElem?_eq_some_iff.mp hj).1
  induction rows generalizing i with
  | nil => simp at hi
  | cons first rows ih =>
    rw [continueRows, List.flatMap_cons]
    cases i with
    | zero =>
      obtain rfl : first = row := by simpa using hi
      rw [List.getElem?_append_left (by simpa using hlt)]
      simp [hj]
    | succ i =>
      have hskip : (i + 1) * alternatives.length + j - alternatives.length =
          i * alternatives.length + j := by
        rw [Nat.succ_mul]
        omega
      rw [List.getElem?_append_right (by rw [List.length_map, Nat.succ_mul]; omega),
        List.length_map, hskip]
      exact ih (by simpa using hi)

lemma exists_first_row (h : ∀ t ∈ members, ¬ t.HasEmptyGroup) :
    ∃ row, (group .and members).normalForm.disjuncts[0]? = some row := by
  have hne : (group .and members).normalForm.disjuncts ≠ [] :=
    and_disjuncts_ne_nil fun t ht => disjuncts_ne_nil (h t ht)
  obtain ⟨row, more, he⟩ := List.exists_cons_of_ne_nil hne
  exact ⟨row, by rw [he, List.getElem?_cons_zero]⟩

/-- Whatever clause fills the place, it turns up at the same place of the same row. -/
lemma exists_row_at (context : Context) (h : ¬ (context.fill (.clause c)).HasEmptyGroup) :
    ∃ (i : Nat) (before after : List Clause), ∀ c',
      (context.fill (.clause c')).normalForm.disjuncts[i]? = some (before ++ c' :: after) := by
  induction context with
  | here => exact ⟨0, [], [], fun c' => by simp [Context.fill]⟩
  | inside k before context after ih =>
    obtain ⟨_, hmembers⟩ := not_hasEmptyGroup_group.mp h
    rw [List.forall_mem_append, List.forall_mem_cons] at hmembers
    obtain ⟨hbefore, hfill, hafter⟩ := hmembers
    obtain ⟨i, first, last, hrow⟩ := ih hfill
    cases k with
    | or =>
      refine ⟨(group .or before).normalForm.disjuncts.length + i, first, last, fun c' => ?_⟩
      have hi := (List.getElem?_eq_some_iff.mp (hrow c')).1
      rw [Context.fill, disjuncts_or_append, disjuncts_or_cons,
        List.getElem?_append_right (Nat.le_add_right _ _), Nat.add_sub_cancel_left,
        List.getElem?_append_left hi, hrow]
    | and =>
      -- The other members go in with their first rows.
      obtain ⟨start, hstart⟩ := exists_first_row hbefore
      obtain ⟨rest, hrest⟩ := exists_first_row hafter
      refine ⟨i * (group .and after).normalForm.disjuncts.length, start ++ first, last ++ rest,
        fun c' => ?_⟩
      have hfilled := getElem?_continueRows (hrow c') hrest
      have hall := getElem?_continueRows hstart hfilled
      rw [Context.fill, disjuncts_and_append, disjuncts_and_cons]
      simpa using hall

end Antecedent.Condition
