import Antecedent.Proofs.Scope.Steps
import Antecedent.Rule.Compile
import Mathlib.Data.List.Forall2

namespace Antecedent

variable {α : Type} {rule : String} {index : Nat} {s : Scope} {c : Clause} {cs : List Clause}
  {ps : List ClausePattern}

lemma Pattern.clauses_foldl (p : Pattern) (ps : List ClausePattern) :
    (ps.foldl (fun acc q => .and acc (.clause q)) p).clauses = p.clauses ++ ps := by
  induction ps generalizing p with
  | nil => simp
  | cons q ps ih => simp [ih, clauses]

lemma Pattern.clauses_ofClauses? {p : Pattern} (h : ofClauses? ps = some p) : p.clauses = ps := by
  cases ps with
  | nil => cases h
  | cons q ps =>
    obtain rfl := Option.some.inj h
    simp [clauses_foldl, clauses]

variable [PatternReader]

lemma compileRow_cons : compileRow rule index s (c :: cs) = .ok ps ↔
    ∃ p s₁ rest, c.resolve index s = (.ok p, s₁) ∧
      compileRow rule (index + 1) s₁ cs = .ok rest ∧ ps = p :: rest := by
  rw [compileRow]
  rcases c.resolve index s with ⟨fault | p, s₁⟩
  · simp
  · simp only [map_eq_ok]
    constructor
    · rintro ⟨rest, hr, rfl⟩
      exact ⟨p, s₁, rest, rfl, hr, rfl⟩
    · rintro ⟨q, s₂, rest, hq, hr, rfl⟩
      cases hq
      exact ⟨rest, hr, rfl⟩

lemma compileRow_length (h : compileRow rule index s cs = .ok ps) : ps.length = cs.length := by
  induction cs generalizing index s ps with
  | nil =>
    cases h
    rfl
  | cons c cs ih =>
    obtain ⟨p, s₁, rest, _, hr, rfl⟩ := compileRow_cons.mp h
    simp [ih hr]

/-- A row is refused at its clause `j`: the clauses before it compile on their own, and those after
it do not matter. -/
structure RefusedAt (rule : String) (index : Nat) (s : Scope) (cs : List Clause)
    (fault : CompileFault) (j : Nat) : Prop where
  clause : ∃ c, cs[j]? = some c ∧ ∃ s₁ s₂ e, c.resolve (index + j) s₁ = (.error e, s₂) ∧
    fault = .inClause rule (index + j) e
  before : ∃ ps, compileRow rule index s (cs.take j) = .ok ps
  upTo : compileRow rule index s (cs.take (j + 1)) = .error fault

lemma exists_refusedAt {fault : CompileFault} (h : compileRow rule index s cs = .error fault) :
    ∃ j, RefusedAt rule index s cs fault j := by
  induction cs generalizing index s with
  | nil => cases h
  | cons c cs ih =>
    rw [compileRow] at h
    split at h
    · next p s₁ hp =>
      cases hr : compileRow rule (index + 1) s₁ cs with
      | ok ps =>
        rw [hr] at h
        cases h
      | error e =>
        rw [hr] at h
        cases h
        obtain ⟨j, ⟨d, hd, s₂, s₃, e, he, hfault⟩, ⟨ps, hps⟩, hupTo⟩ := ih hr
        have hindex : index + 1 + j = index + (j + 1) := by omega
        rw [hindex] at he hfault
        refine ⟨j + 1, ⟨d, hd, s₂, s₃, e, he, hfault⟩, ⟨p :: ps, ?_⟩, ?_⟩
        · exact compileRow_cons.mpr ⟨p, s₁, ps, hp, hps, rfl⟩
        · rw [List.take_succ_cons, compileRow, hp]
          exact congrArg (Except.map (p :: ·)) hupTo
    · next e s₁ he =>
      cases h
      refine ⟨0, ⟨c, rfl, s, s₁, e, he, rfl⟩, ⟨[], rfl⟩, ?_⟩
      rw [List.take_succ_cons, compileRow, he]

lemma compileVariant_ok {row : List Clause} {pattern : Pattern} :
    compileVariant rule row = .ok pattern ↔
      ∃ ps, compileRow rule 0 .empty row = .ok ps ∧ Pattern.ofClauses? ps = some pattern := by
  rw [compileVariant, bind_eq_ok]
  refine exists_congr fun ps => and_congr_right fun _ => ?_
  cases Pattern.ofClauses? ps <;> simp

section Row

variable {row : List Clause} (hne : row ≠ [])
include hne

lemma compileVariant_of_row (h : compileRow rule 0 .empty row = .ok ps) :
    ∃ pattern, compileVariant rule row = .ok pattern ∧ pattern.clauses = ps := by
  have hps : ps ≠ [] := by
    rintro rfl
    exact hne (List.eq_nil_of_length_eq_zero (compileRow_length h).symm)
  obtain ⟨p, ps, rfl⟩ := List.exists_cons_of_ne_nil hps
  exact ⟨_, compileVariant_ok.mpr ⟨p :: ps, h, rfl⟩, Pattern.clauses_ofClauses? rfl⟩

lemma compileVariant_error {fault : CompileFault} :
    compileVariant rule row = .error fault ↔ compileRow rule 0 .empty row = .error fault := by
  cases hr : compileRow rule 0 .empty row with
  | error e => simp [compileVariant, hr, Except.bind]
  | ok ps =>
    obtain ⟨pattern, hv, _⟩ := compileVariant_of_row hne hr
    simp [hv]

end Row

lemma assemble_ok {priority : Int32} {action : α} {rows : List (List Clause)}
    {rules : List (Rule α)} : assemble rule priority action rows = .ok rules ↔
      List.Forall₂ (fun row r => ∃ pattern, compileVariant rule row = .ok pattern ∧
        r = ⟨rule, pattern, action, priority⟩) rows rules := by
  induction rows generalizing rules with
  | nil => cases rules <;> simp [assemble]
  | cons row rows ih =>
    simp only [assemble, bind_eq_ok, map_eq_ok, List.forall₂_cons_left_iff, ih]
    constructor
    · rintro ⟨pattern, hp, rest, hr, rfl⟩
      exact ⟨_, rest, ⟨pattern, hp, rfl⟩, hr, rfl⟩
    · rintro ⟨_, rest, ⟨pattern, hp, rfl⟩, hr, rfl⟩
      exact ⟨pattern, hp, rest, hr, rfl⟩

lemma assemble_cons_error {priority : Int32} {action : α} {row : List Clause}
    {rows : List (List Clause)} {fault : CompileFault} :
    assemble rule priority action (row :: rows) = .error fault ↔
      compileVariant rule row = .error fault ∨ (∃ pattern, compileVariant rule row = .ok pattern) ∧
        assemble rule priority action rows = .error fault := by
  rw [assemble]
  cases compileVariant rule row with
  | error e => simp [Except.bind]
  | ok pattern => cases assemble rule priority action rows <;> simp [Except.bind, Except.map]

lemma assemble_single_ok {priority : Int32} {action : α} {row : List Clause}
    {rules : List (Rule α)} : assemble rule priority action [row] = .ok rules ↔
      ∃ pattern, compileVariant rule row = .ok pattern ∧
        rules = [⟨rule, pattern, action, priority⟩] := by
  rw [assemble_ok, List.forall₂_cons_left_iff]
  simp

lemma assemble_single_error {priority : Int32} {action : α} {row : List Clause}
    {fault : CompileFault} : assemble rule priority action [row] = .error fault ↔
      compileVariant rule row = .error fault := by
  rw [assemble_cons_error]
  simp [assemble]

lemma assemble_error {priority : Int32} {action : α} {rows : List (List Clause)}
    {fault : CompileFault} : assemble rule priority action rows = .error fault ↔
      ∃ earlier row later, rows = earlier ++ row :: later ∧
        (∀ r ∈ earlier, ∃ pattern, compileVariant rule r = .ok pattern) ∧
          compileVariant rule row = .error fault := by
  induction rows with
  | nil => simp [assemble]
  | cons row rows ih =>
    rw [assemble_cons_error, ih]
    constructor
    · rintro (hr | ⟨hrow, earlier, r, later, rfl, hok, hr⟩)
      · exact ⟨[], row, rows, rfl, by simp, hr⟩
      · exact ⟨row :: earlier, r, later, rfl, List.forall_mem_cons.mpr ⟨hrow, hok⟩, hr⟩
    · rintro ⟨earlier, r, later, hrows, hok, hr⟩
      cases earlier with
      | nil =>
        obtain ⟨rfl, rfl⟩ := List.cons.inj hrows
        exact .inl hr
      | cons r' earlier =>
        obtain ⟨rfl, rfl⟩ := List.cons.inj hrows
        obtain ⟨hrow, hok⟩ := List.forall_mem_cons.mp hok
        exact .inr ⟨hrow, earlier, r, later, rfl, hok, hr⟩

lemma Definition.assemble_of_compile {d : Definition} {limits : Limits} {action : α}
    {rules : List (Rule α)} (h : d.compile limits action = .ok rules) :
    assemble d.name d.effectivePriority action d.condition.normalForm.disjuncts = .ok rules := by
  rw [compile] at h
  split at h
  · cases h
  · split at h
    · cases h
    · split at h
      · cases h
      · exact h

end Antecedent
