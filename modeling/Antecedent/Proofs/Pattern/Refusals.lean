import Antecedent.Proofs.Pattern.Admission
import Antecedent.Proofs.Pattern.Halts

namespace Antecedent

def PropertyTest.Paired (t : PropertyTest) : Prop :=
  match t.op, t.operand with
  | none, .none => True
  | some op, .value _ => op ∈ [.eq, .notEq, .gt, .gte, .lt, .lte]
  | some op, .range _ _ => op = .between
  | some op, .pattern _ => op = .matching
  | some op, .type _ => op = .isA
  | some op, .refs tags => op ≠ .ne ∧ tags.length = op.arity
  | some op, .nested _ => op ≠ .ne ∧ op ≠ .between
  | _, _ => False

def ClauseFault.NotSyntax (fault : ClauseFault) : Prop := fault.kind ≠ .invalidSyntax

variable {index : Nat} {s : Scope} {path : Path} {op : Operator} {fault : ClauseFault}
  {t : PropertyTest}

lemma references_refuses {tags : List Tag} (hl : tags.length = op.arity)
    (h : s.references index path op tags = .error fault) : fault.NotSyntax := by
  rcases Scope.references_eq_error h with ⟨hne, -⟩ | ⟨tag, -, rfl⟩ | rfl
  · exact (hne hl).elim
  · rintro ⟨⟩
  · rintro ⟨⟩

lemma arity_of_ne_between (h : op ≠ .between) : op.arity = 1 := by
  cases op <;> first | rfl | exact (h rfl).elim

lemma PropertyTest.kindIn_refuses [PatternReader] (ht : t.op = some .ne ∨ t.Paired)
    (h : t.kindIn index s = .error fault) : fault.NotSyntax := by
  obtain ⟨path, tag, op, operand⟩ := t
  rcases ht with ht | ht
  · obtain rfl : op = some .ne := ht
    cases h
    rintro ⟨⟩
  cases op with
  | none =>
    cases operand with
    | none => cases h
    | _ => exact ht.elim
  | some op =>
    cases operand with
    | none => exact ht.elim
    | value v =>
      cases op with
      | eq | notEq | gt | gte | lt | lte => cases h
      | _ => simp [Paired] at ht
    | range low high =>
      obtain rfl : op = .between := ht
      cases h
    | type name =>
      obtain rfl : op = .isA := ht
      cases h
    | pattern source =>
      obtain rfl : op = .matching := ht
      simp only [kindIn, literalKind] at h
      split at h
      · cases h
      · cases h
        rintro ⟨⟩
    | refs tags =>
      rw [kindIn_refs ht.1] at h
      exact references_refuses ht.2 h
    | nested child =>
      have ha := arity_of_ne_between ht.2
      rw [(kindIn_nested ht.1).mpr ⟨ha, rfl⟩] at h
      cases h

lemma Blocked.refuses [PatternReader] {sites : List Site} (h : Blocked index s sites fault)
    (hs : ∀ t, .test (.property t) ∈ sites → t.op = some .ne ∨ t.Paired) : fault.NotSyntax := by
  cases h with
  | @kind site _ _ hmem hk =>
    cases site with
    | head tag => cases hk
    | test t =>
      cases t with
      | property t => exact PropertyTest.kindIn_refuses (hs t hmem) hk
      | function f => cases hk
  | tag ht =>
    rcases ht.fault_cases with rfl | ⟨_, _, _, rfl⟩
    · rintro ⟨⟩
    · rintro ⟨⟩

namespace Clause

structure Regular (c : Clause) : Prop where
  inOrder : ∃ modifiers target tag block, c.tokens = Antecedent.inOrder modifiers target tag block
  named : ∀ site ∈ c.sites, site.Named
  paired : ∀ t, .property t ∈ c.flatTests → t.op = some .ne ∨ t.Paired

lemma shape_refuses {c : Clause} {fault : ClauseFault} (hc : c.Regular)
    (h : c.shape = .error fault) : fault.NotSyntax := by
  obtain ⟨modifiers, target, tag, block, ht⟩ := hc.inOrder
  rw [shape, ht] at h
  by_cases hm : .existing ∈ modifiers
  · rw [Shape.ofTokens, (Shape.modifiers_inOrder modifiers target tag block).1, if_pos hm] at h
    cases h
    rintro ⟨⟩
  · rw [Shape.ofTokens_inOrder hm] at h
    cases h

lemma resolve_refuses [PatternReader] {c : Clause} {s' : Scope} (hc : c.Regular)
    (h : c.resolve index s = (.error fault, s')) : fault.NotSyntax := by
  rcases resolve_error h with ⟨hshape, -⟩ | ⟨_, -, visited, unvisited, _, hsites, -, hblocked⟩
  · exact shape_refuses hc hshape
  · apply hblocked.refuses
    intro t ht
    have hmem : .test (.property t) ∈ c.sites := by
      rw [hsites]
      exact List.mem_append_right visited ht
    apply hc.paired
    simpa [sites] using hmem

end Clause

end Antecedent
