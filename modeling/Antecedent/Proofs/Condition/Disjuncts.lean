import Antecedent.Condition.NormalForm
import Mathlib.Tactic.Lemma

/-! The rows of a group computed member by member, and the truth of a condition read off them. -/

namespace Antecedent.Condition

/-- Groups lose their members one at a time, so that a group and its members need one induction. -/
@[elab_as_elim]
lemma member_induction {motive : Condition → Prop} (clause : ∀ c, motive (.clause c))
    (nil : ∀ k, motive (.group k []))
    (cons : ∀ k c cs, motive c → motive (.group k cs) → motive (.group k (c :: cs)))
    (c : Condition) : motive c := by
  refine @Condition.rec motive (fun cs => ∀ k, motive (.group k cs)) clause ?_ nil ?_ c
  · intro k members h
    exact h k
  · intro c cs hc hcs k
    exact cons k c cs hc (hcs k)

@[elab_as_elim]
lemma tree_induction {motive : Condition → Prop} (clause : ∀ c, motive (.clause c))
    (group : ∀ k members, (∀ c ∈ members, motive c) → motive (.group k members))
    (c : Condition) : motive c := by
  refine @Condition.rec motive (fun cs => ∀ c ∈ cs, motive c) clause group ?_ ?_ c
  · simp
  · intro c cs hc hcs
    exact List.forall_mem_cons.mpr ⟨hc, hcs⟩

lemma mem_continueRows {rows alternatives : List (List Clause)} {row : List Clause} :
    row ∈ continueRows rows alternatives ↔ ∃ r ∈ rows, ∃ a ∈ alternatives, row = r ++ a := by
  simp only [continueRows, List.mem_flatMap, List.mem_map]
  constructor
  · rintro ⟨r, hr, a, ha, rfl⟩
    exact ⟨r, hr, a, ha, rfl⟩
  · rintro ⟨r, hr, a, ha, rfl⟩
    exact ⟨r, hr, a, ha, rfl⟩

@[simp] lemma continueRows_nil_row (rows : List (List Clause)) : continueRows [[]] rows = rows := by
  simp [continueRows]

@[simp] lemma continueRows_of_nil_row (rows : List (List Clause)) :
    continueRows rows [[]] = rows := by
  simp [continueRows]

lemma continueRows_assoc (rows middle last : List (List Clause)) :
    continueRows (continueRows rows middle) last = continueRows rows (continueRows middle last) := by
  simp only [continueRows, List.flatMap_assoc, List.map_flatMap, List.flatMap_map, List.map_map]
  congr 1
  funext row
  congr 1
  funext m
  congr 1
  funext l
  simp

lemma foldl_continueRows (parts : List (List (List Clause))) (rows : List (List Clause)) :
    parts.foldl continueRows rows = continueRows rows (choices parts) := by
  induction parts generalizing rows with
  | nil => simp [choices]
  | cons part parts ih =>
    have hc : choices (part :: parts) = continueRows part (choices parts) := by
      simpa [choices] using ih part
    rw [List.foldl_cons, ih, hc, continueRows_assoc]

lemma choices_cons (part : List (List Clause)) (parts : List (List (List Clause))) :
    choices (part :: parts) = continueRows part (choices parts) := by
  simpa [choices] using foldl_continueRows parts part

lemma choices_singletons {parts : List (List (List Clause))}
    (h : parts.all (·.length == 1) = true) : ∃ row, choices parts = [row] := by
  induction parts with
  | nil => exact ⟨[], rfl⟩
  | cons part parts ih =>
    simp only [List.all_cons, Bool.and_eq_true, beq_iff_eq] at h
    obtain ⟨first, rfl⟩ := List.length_eq_one_iff.mp h.1
    obtain ⟨rest, hr⟩ := ih h.2
    exact ⟨first ++ rest, by simp [choices_cons, hr, continueRows]⟩

lemma disjuncts_and (members : List Condition) :
    (group .and members).normalForm.disjuncts = choices (alternatives members) := by
  simp only [normalForm]
  split
  · next h =>
    obtain ⟨row, hr⟩ := choices_singletons h
    simp [hr, NormalForm.disjuncts]
  · rfl

@[simp] lemma disjuncts_clause (c : Clause) : (clause c).normalForm.disjuncts = [[c]] := by
  simp [normalForm, NormalForm.disjuncts]

@[simp] lemma disjuncts_and_nil : (group .and []).normalForm.disjuncts = [[]] := by
  rw [disjuncts_and, alternatives]
  rfl

@[simp] lemma disjuncts_and_cons (c : Condition) (cs : List Condition) :
    (group .and (c :: cs)).normalForm.disjuncts =
      continueRows c.normalForm.disjuncts (group .and cs).normalForm.disjuncts := by
  rw [disjuncts_and, disjuncts_and, alternatives, choices_cons]

@[simp] lemma disjuncts_or_nil : (group .or []).normalForm.disjuncts = [] := by
  simp [normalForm, alternatives, NormalForm.disjuncts]

@[simp] lemma disjuncts_or_cons (c : Condition) (cs : List Condition) :
    (group .or (c :: cs)).normalForm.disjuncts =
      c.normalForm.disjuncts ++ (group .or cs).normalForm.disjuncts := by
  simp [normalForm, alternatives, NormalForm.disjuncts]

mutual
def holds (v : Clause → Bool) : Condition → Bool
  | .clause c => v c
  | .group .and members => allHold v members
  | .group .or members => someHolds v members

def allHold (v : Clause → Bool) : List Condition → Bool
  | [] => true
  | c :: cs => c.holds v && allHold v cs

def someHolds (v : Clause → Bool) : List Condition → Bool
  | [] => false
  | c :: cs => c.holds v || someHolds v cs
end

@[simp] lemma holds_clause (v : Clause → Bool) (c : Clause) : (clause c).holds v = v c := by
  simp [holds]

lemma allHold_eq_all (v : Clause → Bool) (cs : List Condition) : allHold v cs = cs.all (holds v) := by
  induction cs with
  | nil => simp [allHold]
  | cons c cs ih => simp [allHold, ih]

lemma someHolds_eq_any (v : Clause → Bool) (cs : List Condition) :
    someHolds v cs = cs.any (holds v) := by
  induction cs with
  | nil => simp [someHolds]
  | cons c cs ih => simp [someHolds, ih]

@[simp] lemma holds_and (v : Clause → Bool) (cs : List Condition) :
    (group .and cs).holds v = cs.all (holds v) := by
  rw [holds, allHold_eq_all]

@[simp] lemma holds_or (v : Clause → Bool) (cs : List Condition) :
    (group .or cs).holds v = cs.any (holds v) := by
  rw [holds, someHolds_eq_any]

lemma some_continued_row_holds (v : Clause → Bool) (rows alternatives : List (List Clause)) :
    (∃ row ∈ continueRows rows alternatives, ∀ c ∈ row, v c = true) ↔
      (∃ row ∈ rows, ∀ c ∈ row, v c = true) ∧ ∃ row ∈ alternatives, ∀ c ∈ row, v c = true := by
  simp only [mem_continueRows]
  constructor
  · rintro ⟨_, ⟨r, hr, a, ha, rfl⟩, hv⟩
    exact ⟨⟨r, hr, fun c hc => hv c (List.mem_append_left a hc)⟩,
      a, ha, fun c hc => hv c (List.mem_append_right r hc)⟩
  · rintro ⟨⟨r, hr, hvr⟩, a, ha, hva⟩
    refine ⟨r ++ a, ⟨r, hr, a, ha, rfl⟩, ?_⟩
    intro c hc
    exact (List.mem_append.mp hc).elim (hvr c) (hva c)

theorem holds_iff_some_disjunct (v : Clause → Bool) (c : Condition) :
    c.holds v = true ↔ ∃ row ∈ c.normalForm.disjuncts, ∀ clause ∈ row, v clause = true := by
  induction c using member_induction with
  | clause c => simp
  | nil k => cases k <;> simp
  | cons k c cs hc hcs =>
    cases k with
    | and =>
      rw [disjuncts_and_cons, some_continued_row_holds, ← hc, ← hcs]
      simp
    | or =>
      rw [disjuncts_or_cons]
      simp only [List.mem_append, or_and_right, exists_or, ← hc, ← hcs]
      simp

end Antecedent.Condition
