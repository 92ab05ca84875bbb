import Antecedent.Proofs.Rule.Budget
import Antecedent.Regex.Reading

/-! A definition with alternatives compiles as these do when each is written out as a definition of
its own. -/

namespace Antecedent

lemma Condition.disjuncts_clauses (row : List Clause) :
    (group .and (row.map .clause)).normalForm.disjuncts = [row] := by
  induction row with
  | nil => simp
  | cons c cs ih => simp [ih, continueRows]

namespace Definition

variable {α : Type} {d : Definition} {row : List Clause} {action : α} {rules : List (Rule α)}
  {fault : CompileFault}

def ofRow (d : Definition) (row : List Clause) : Definition :=
  { d with conditions := row.map .clause }

def writtenOut (d : Definition) : List Definition := d.variants.map d.ofRow

lemma ofRow_full (hne : row ≠ []) : ¬ (d.ofRow row).HasEmptyGroup := by
  rintro (he | ⟨c, hc, he⟩)
  · exact hne (List.map_eq_nil_iff.mp he)
  · obtain ⟨_, _, rfl⟩ := List.mem_map.mp hc
    exact Condition.not_hasEmptyGroup_clause _ he

lemma ofRow_variants (d : Definition) (row : List Clause) : (d.ofRow row).variants = [row] :=
  Condition.disjuncts_clauses row

variable [PatternReader]

lemma compile_ofRow (hne : row ≠ []) : (d.ofRow row).compile .unbounded action =
    assemble d.name d.effectivePriority action [row] := by
  rw [compile_unbounded (ofRow_full hne), ofRow_variants]
  rfl

lemma ofRow_ok (hne : row ≠ []) : (d.ofRow row).compile .unbounded action = .ok rules ↔
    ∃ pattern, compileVariant d.name row = .ok pattern ∧
      rules = [⟨d.name, pattern, action, d.effectivePriority⟩] := by
  rw [compile_ofRow hne, assemble_single_ok]

lemma ofRow_error (hne : row ≠ []) : (d.ofRow row).compile .unbounded action = .error fault ↔
    compileVariant d.name row = .error fault := by
  rw [compile_ofRow hne, assemble_single_error]

section Rows

variable {rows : List (List Clause)} (hne : ∀ row ∈ rows, row ≠ [])
include hne

lemma assemble_ok_ofRow : assemble d.name d.effectivePriority action rows = .ok rules ↔
    List.Forall₂ (fun v r => v.compile .unbounded action = .ok [r]) (rows.map d.ofRow) rules := by
  rw [assemble_ok, List.forall₂_map_left_iff]
  induction rows generalizing rules with
  | nil => simp
  | cons row rows ih =>
    obtain ⟨hrow, hrows⟩ := List.forall_mem_cons.mp hne
    simp only [List.forall₂_cons_left_iff, ih hrows, ofRow_ok hrow, List.cons.injEq, and_true]

lemma assemble_error_ofRow : assemble d.name d.effectivePriority action rows = .error fault ↔
    ∃ earlier v later, rows.map d.ofRow = earlier ++ v :: later ∧
      (∀ u ∈ earlier, ∃ r, u.compile .unbounded action = .ok [r]) ∧
        v.compile .unbounded action = .error fault := by
  have hok : ∀ row ∈ rows, (∃ r, (d.ofRow row).compile .unbounded action = .ok [r]) ↔
      ∃ pattern, compileVariant d.name row = .ok pattern := by
    intro row hrow
    simp [ofRow_ok (hne row hrow)]
  rw [assemble_error]
  constructor
  · rintro ⟨earlier, row, later, rfl, hearlier, hv⟩
    refine ⟨earlier.map d.ofRow, d.ofRow row, later.map d.ofRow, by simp, ?_, ?_⟩
    · intro u hu
      obtain ⟨r, hr, rfl⟩ := List.mem_map.mp hu
      exact (hok r (by simp [hr])).mpr (hearlier r hr)
    · exact (ofRow_error (hne row (by simp))).mpr hv
  · rintro ⟨us, v, vs, hmap, hus, hv⟩
    obtain ⟨earlier, rest, rfl, rfl, hrest⟩ := List.map_eq_append_iff.mp hmap
    obtain ⟨row, later, rfl, rfl, _⟩ := List.map_eq_cons_iff.mp hrest
    refine ⟨earlier, row, later, rfl, ?_, ?_⟩
    · intro r hr
      exact (hok r (by simp [hr])).mp (hus _ (List.mem_map_of_mem hr))
    · exact (ofRow_error (hne row (by simp))).mp hv

end Rows

end Definition

theorem compile_writtenOut [PatternReader] {α : Type} (d : Definition) (action : α)
    (h : ¬ d.HasEmptyGroup) :
    (∀ v ∈ d.writtenOut, ∀ rules, v.compile .unbounded action = .ok rules → ∃ r, rules = [r]) ∧
    (∀ rules, d.compile .unbounded action = .ok rules ↔
      List.Forall₂ (fun v r => v.compile .unbounded action = .ok [r]) d.writtenOut rules) ∧
    ∀ fault, d.compile .unbounded action = .error fault ↔
      ∃ earlier v later, d.writtenOut = earlier ++ v :: later ∧
        (∀ u ∈ earlier, ∃ r, u.compile .unbounded action = .ok [r]) ∧
          v.compile .unbounded action = .error fault := by
  have hne : ∀ row ∈ d.variants, row ≠ [] :=
    Condition.row_ne_nil (Definition.not_hasEmptyGroup_condition.mpr h)
  rw [Definition.compile_unbounded h]
  refine ⟨?_, fun rules => Definition.assemble_ok_ofRow hne,
    fun fault => Definition.assemble_error_ofRow hne⟩
  intro v hv rules hrules
  obtain ⟨row, hrow, rfl⟩ := List.mem_map.mp hv
  obtain ⟨pattern, _, rfl⟩ := (Definition.ofRow_ok (hne row hrow)).mp hrules
  exact ⟨_, rfl⟩

def halfBound : Definition where
  name := "repriced"
  priority := some 3
  conditions := [
    .group .or [
      -- Only this alternative binds the tag of the last clause.
      .clause ⟨[.target "Order", .tests [.property ⟨⟨["price"]⟩, some (.named "p"), none, .none⟩]]⟩,
      .clause ⟨[.target "Quote"]⟩],
    .clause ⟨[.tests [.property ⟨⟨["ask"]⟩, none, some .gt, .refs [.named "p"]⟩]]⟩]

open scoped Regex

theorem halfBound_writtenOut : ¬ halfBound.HasEmptyGroup ∧ halfBound.writtenOut.length = 2 ∧
    halfBound.compile .unbounded () =
      .error (.inClause "repriced" 1 (.unresolvable "ask" (.named "p"))) := by
  have hfull : ¬ halfBound.HasEmptyGroup := by
    rw [← Definition.not_hasEmptyGroup_condition, ← Condition.emptyGroup?_eq_none]
    rfl
  refine ⟨hfull, rfl, ?_⟩
  apply ((compile_writtenOut halfBound () hfull).2.2 _).mpr
  refine ⟨[_], _, [], rfl, ?_, rfl⟩
  rw [List.forall_mem_singleton]
  exact ⟨_, rfl⟩

end Antecedent
