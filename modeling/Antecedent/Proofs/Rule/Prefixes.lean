import Antecedent.Proofs.Pattern.Bindings
import Antecedent.Regex.Reading

/-! The first clauses of a row compile in the same way whatever comes after them, and a row is refused
where its first clause that does not compile stands. -/

namespace Antecedent

variable {α : Type} {rule : String} {index : Nat} {s : Scope} {row : List Clause}
  {ps : List ClausePattern}

lemma compileRow_take [PatternReader] (h : compileRow rule index s row = .ok ps) (k : Nat) :
    compileRow rule index s (row.take k) = .ok (ps.take k) := by
  induction row generalizing index s ps k with
  | nil =>
    cases h
    simp [compileRow]
  | cons c cs ih =>
    obtain ⟨p, s₁, rest, hp, hrest, rfl⟩ := compileRow_cons.mp h
    cases k with
    | zero => rfl
    | succ k => exact compileRow_cons.mpr ⟨p, s₁, rest.take k, hp, ih hrest k, rfl⟩

lemma compileRow_indices [PatternReader] (h : compileRow rule index s row = .ok ps) :
    ps.map ClausePattern.index = List.range' index row.length := by
  induction row generalizing index s ps with
  | nil =>
    cases h
    rfl
  | cons c cs ih =>
    obtain ⟨p, s₁, rest, hp, hrest, rfl⟩ := compileRow_cons.mp h
    have hindex : p.index = index := (Clause.resolve_bindings hp).1
    rw [List.map_cons, hindex, ih hrest, List.length_cons, List.range'_succ]

lemma Pattern.size_eq (p : Pattern) : p.size = p.clauses.length := by
  induction p with
  | clause p => rfl
  | and left right ihl ihr => rw [size, clauses, List.length_append, ihl, ihr]

def assembleRow [PatternReader] (name : String) (priority : Int32) (action : α)
    (row : List Clause) : Except CompileFault (List (Rule α)) :=
  assemble name priority action (NormalForm.conjunction row).disjuncts

theorem assembleRow_prefixes [PatternReader] {α : Type} (name : String) (priority : Int32)
    (action : α) {row : List Clause} (hne : row ≠ []) :
    (∀ rules, assembleRow name priority action row = .ok rules →
      ∃ r, rules = [r] ∧ r.pattern.clauses.map ClausePattern.index = List.range row.length ∧
        r.pattern.size = row.length ∧
          ∀ k, 0 < k → k ≤ row.length →
            ∃ r', assembleRow name priority action (row.take k) = .ok [r'] ∧
              r'.pattern.clauses = r.pattern.clauses.take k) ∧
    ∀ fault, assembleRow name priority action row = .error fault →
      fault.rule = name ∧ ∃ j < row.length, fault.clause? = some j ∧
        (0 < j → ∃ rules, assembleRow name priority action (row.take j) = .ok rules) ∧
          assembleRow name priority action (row.take (j + 1)) = .error fault := by
  have htake : ∀ k, 0 < k → row.take k ≠ [] := by
    intro k hk he
    exact (List.take_eq_nil_iff.mp he).elim (Nat.ne_of_gt hk) hne
  constructor
  · intro rules h
    obtain ⟨pattern, hv, rfl⟩ := assemble_single_ok.mp h
    obtain ⟨ps, hps, hof⟩ := compileVariant_ok.mp hv
    obtain rfl : pattern.clauses = ps := Pattern.clauses_ofClauses? hof
    refine ⟨_, rfl, ?_, ?_, fun k hk _ => ?_⟩
    · rw [compileRow_indices hps, List.range_eq_range']
    · rw [Pattern.size_eq, compileRow_length hps]
    · obtain ⟨pattern', hv', hclauses⟩ :=
        compileVariant_of_row (htake k hk) (compileRow_take hps k)
      exact ⟨_, assemble_single_ok.mpr ⟨pattern', hv', rfl⟩, hclauses⟩
  · intro fault h
    have hrow := (compileVariant_error hne).mp (assemble_single_error.mp h)
    obtain ⟨j, ⟨c, hc, _, _, e, _, rfl⟩, ⟨ps, hps⟩, hupTo⟩ := exists_refusedAt hrow
    obtain ⟨hj, _⟩ := List.getElem?_eq_some_iff.mp hc
    rw [Nat.zero_add] at hupTo ⊢
    refine ⟨rfl, j, hj, rfl, fun hpos => ?_, ?_⟩
    · obtain ⟨pattern, hv, _⟩ := compileVariant_of_row (htake j hpos) hps
      exact ⟨_, assemble_single_ok.mpr ⟨pattern, hv, rfl⟩⟩
    · apply assemble_single_error.mpr
      exact (compileVariant_error (htake _ j.succ_pos)).mpr hupTo

def lateTag : List Clause := [
  ⟨[.target "Order", .tests [.property ⟨⟨["price"]⟩, some (.named "p"), none, .none⟩]]⟩,
  ⟨[.target "Quote", .tests [.property ⟨⟨["ask"]⟩, none, some .lt, .refs [.named "p"]⟩]]⟩,
  -- The next clause binds the tag, which is too late.
  ⟨[.target "Trade", .tests [.property ⟨⟨["size"]⟩, none, some .eq, .refs [.named "late"]⟩]]⟩,
  ⟨[.target "Bid", .tag (.named "late")]⟩]

open scoped Regex

theorem lateTag_prefixes :
    (∃ r, assembleRow "late" 2 () (lateTag.take 2) = .ok [r] ∧
      r.pattern.clauses.map ClausePattern.index = [0, 1] ∧ r.pattern.size = 2 ∧
        ∃ r', assembleRow "late" 2 () (lateTag.take 1) = .ok [r'] ∧
          r'.pattern.clauses = r.pattern.clauses.take 1) ∧
    ∃ fault, assembleRow "late" 2 () lateTag = .error fault ∧ fault.kind = .unresolvable ∧
      fault.rule = "late" ∧ fault.clause? = some 2 ∧
        (∃ rules, assembleRow "late" 2 () (lateTag.take 2) = .ok rules) ∧
          assembleRow "late" 2 () (lateTag.take 3) = .error fault := by
  have hfirst : lateTag.take 2 ≠ [] := List.cons_ne_nil _ _
  have hall : lateTag ≠ [] := List.cons_ne_nil _ _
  have hok : assembleRow "late" 2 () (lateTag.take 2) = .ok _ := rfl
  have herror : assembleRow "late" 2 () lateTag = .error _ := rfl
  constructor
  · obtain ⟨r, hr, hindices, hsize, htake⟩ := (assembleRow_prefixes "late" 2 () hfirst).1 _ hok
    exact ⟨r, hok.trans (congrArg Except.ok hr), hindices, hsize, htake 1 (by decide) (by decide)⟩
  · obtain ⟨hrule, j, hj, hclause, htake, hstop⟩ := (assembleRow_prefixes "late" 2 () hall).2 _ herror
    obtain rfl : 2 = j := Option.some.inj hclause
    exact ⟨_, herror, rfl, hrule, hclause, htake (by decide), hstop⟩

end Antecedent
