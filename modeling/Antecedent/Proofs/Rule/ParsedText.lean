import Antecedent.Proofs.Pattern.Refusals
import Antecedent.Proofs.Rule.Variants
import Antecedent.Proofs.Source.Parsed
import Antecedent.Regex.Reading

/-! Rules that come from a text are never malformed, and none of their clauses is a syntax error. -/

namespace Antecedent

def CompileFault.FitsText (fault : CompileFault) : Prop :=
  fault.kind ≠ .malformed ∧ fault.kind ≠ .invalidSyntax

lemma CompileFault.fitsText_inClause {rule : String} {index : Nat} {fault : ClauseFault}
    (h : fault.NotSyntax) : (CompileFault.inClause rule index fault).FitsText := by
  refine ⟨?_, h⟩
  cases fault <;> rintro ⟨⟩

namespace Operand.Follows

variable {op : Operator} {operand : Operand}

lemma paired (h : operand.Follows op) (path : Path) (tag : Option Tag) :
    op = .ne ∨ PropertyTest.Paired ⟨path, tag, some op, operand⟩ := by
  cases h with
  | value v hop => cases op <;> simp [PropertyTest.Paired, Operator.simple] at hop ⊢
  | reference name hop =>
    cases op <;> simp [PropertyTest.Paired, Operator.simple, Operator.arity] at hop ⊢
  | nested p hop => cases op <;> simp [PropertyTest.Paired, Operator.simple] at hop ⊢
  | _ => simp [PropertyTest.Paired, Operator.arity]

lemma references_named (h : operand.Follows op) :
    ∀ tag ∈ operand.references, tag.isGenerated = false := by
  cases h <;> simp [Operand.references, Tag.isGenerated]

end Operand.Follows

lemma PropertyTest.Written.chain {t : PropertyTest} (h : t.Written) :
    ∀ u ∈ t.chain, u.Written := by
  cases h with
  | bare path name => simpa [PropertyTest.chain] using .bare path name
  | @compared path name op operand ho =>
    have hself : PropertyTest.Written ⟨path, name.map .named, some op, operand⟩ := .compared path name ho
    cases ho with
    | nested p hop =>
      have hchild : PropertyTest.Written ⟨p, none, none, .none⟩ := .bare p none
      simpa [PropertyTest.chain] using ⟨hchild, hself⟩
    | _ => simpa [PropertyTest.chain] using hself

lemma PropertyTest.Written.paired {t : PropertyTest} (h : t.Written) :
    t.op = some .ne ∨ t.Paired := by
  cases h with
  | bare path name => exact .inr trivial
  | compared path name ho => simpa using ho.paired path _

lemma named_of_map (name : Option String) :
    ∀ tag ∈ name.map Tag.named, tag.isGenerated = false := by
  intro tag ht
  obtain ⟨_, _, rfl⟩ := Option.map_eq_some_iff.mp ht
  rfl

lemma PropertyTest.Written.named {t : PropertyTest} (h : t.Written) :
    Site.Named (.test (.property t)) := by
  cases h with
  | bare path name => exact ⟨named_of_map name, by simp [Site.refs, Operand.references]⟩
  | compared path name ho => exact ⟨named_of_map name, ho.references_named⟩

lemma Clause.Written.regular {c : Clause} (h : c.Written) : c.Regular := by
  obtain ⟨modifiers, target, name, block, ht, hblock⟩ := h
  have htests : ∀ t ∈ c.flatTests, ∃ u : PropertyTest, t = .property u ∧ u.Written := by
    intro t hmem
    rw [flatTests, writtenTests_of_inOrder ht] at hmem
    cases block with
    | none => simp at hmem
    | some ts =>
      obtain ⟨_, hmem, hchain⟩ := List.mem_flatMap.mp hmem
      obtain ⟨whole, hts, rfl⟩ := List.mem_map.mp hmem
      obtain ⟨u, hu, rfl⟩ := List.mem_map.mp hchain
      exact ⟨u, rfl, (hblock ts rfl whole hts).chain u hu⟩
  refine ⟨⟨modifiers, target, _, _, ht⟩, ?_, ?_⟩
  · rw [sites, List.forall_mem_cons, writtenTag_of_inOrder ht]
    refine ⟨⟨named_of_map name, by simp [Site.refs]⟩, ?_⟩
    intro site hsite
    obtain ⟨t, hmem, rfl⟩ := List.mem_map.mp hsite
    obtain ⟨u, rfl, hu⟩ := htests t hmem
    exact hu.named
  · intro t hmem
    obtain ⟨u, hu, hw⟩ := htests _ hmem
    cases hu
    exact hw.paired

lemma Definition.compile_fitsText [PatternReader] {α : Type} {d : Definition} {limits : Limits}
    {action : α} {fault : CompileFault} (hne : d.conditions ≠ [])
    (hd : ∀ c ∈ d.conditions, c.Built Clause.Regular)
    (h : d.compile limits action = .error fault) : fault.FitsText := by
  have hfull : d.condition.emptyGroup? = none := by
    rw [condition, Condition.emptyGroup?_group hne, Condition.emptyGroupIn?_eq_none]
    exact fun c hc => (hd c hc).emptyGroup?
  rw [compile, if_neg (by simpa using hne), hfull] at h
  dsimp only at h
  split at h
  · cases h
    exact ⟨by rintro ⟨⟩, by rintro ⟨⟩⟩
  · obtain ⟨earlier, row, later, hrows, _, hv⟩ := assemble_error.mp h
    have hmem : row ∈ d.condition.normalForm.disjuncts := by simp [hrows]
    have hrow := Condition.rows_of_group (k := .and) hne (fun c hc => (hd c hc).rows) row hmem
    obtain ⟨j, ⟨c, hc, s₁, s₂, e, he, rfl⟩, _, _⟩ :=
      exists_refusedAt ((compileVariant_error hrow.1).mp hv)
    have hregular := hrow.2 c (List.mem_of_getElem? hc)
    exact CompileFault.fitsText_inClause (Clause.resolve_refuses hregular he)

theorem parsed_fits_text [PatternReader] {text : String} {ds : List Definition}
    (h : Source.parse text = .ok ds) {d : Definition} (hd : d ∈ ds) :
    (d.conditions ≠ [] ∧ ∀ c ∈ d.conditions, c.Built Clause.Regular) ∧
      ∀ {α : Type} (limits : Limits) (action : α) (fault : CompileFault),
        d.compile limits action = .error fault →
          fault.kind ≠ .malformed ∧ fault.kind ≠ .invalidSyntax := by
  obtain ⟨hne, hwritten⟩ := Source.parse_yields h hd
  have hregular : ∀ c ∈ d.conditions, c.Built Clause.Regular :=
    fun c hc => (hwritten c hc).mono fun _ => Clause.Written.regular
  refine ⟨⟨hne, hregular⟩, ?_⟩
  intro α limits action fault hf
  exact Definition.compile_fitsText hne hregular hf

def repricedText : String :=
  "rule repriced (priority 2):\n" ++
    "(Order :o where \x7b total as :t > limit \x7d OR is_a Quote) AND " ++
      -- The operator of this test can be written but is not allowed.
      "not where \x7b total != @t \x7d"

def soleFault [PatternReader] (text : String) : Option CompileFault :=
  match Source.parse text with
  | .ok [d] =>
    match d.compile .unbounded () with
    | .error fault => some fault
    | .ok _ => none
  | _ => none

open scoped Regex

theorem repricedText_fits_text : ∃ d, Source.parse repricedText = .ok [d] ∧
    (d.conditions ≠ [] ∧ ∀ c ∈ d.conditions, c.Built Clause.Regular) ∧
      ∃ fault, d.compile .unbounded () = .error fault ∧
        fault = .inClause "repriced" 1 (.disallowedOperator "total" .ne) ∧
          fault.kind ≠ .malformed ∧ fault.kind ≠ .invalidSyntax := by
  have hrun : soleFault repricedText =
      some (.inClause "repriced" 1 (.disallowedOperator "total" .ne)) := by decide +kernel
  rw [soleFault] at hrun
  split at hrun
  · next d hparse =>
    split at hrun
    · next fault hfault =>
      have hfits := parsed_fits_text hparse (List.mem_singleton.mpr rfl)
      exact ⟨d, hparse, hfits.1, fault, hfault, Option.some.inj hrun,
        hfits.2 .unbounded () fault hfault⟩
    · cases hrun
  · cases hrun

end Antecedent
