import Antecedent.Proofs.Pattern.Sites

namespace Antecedent

variable [PatternReader]

inductive Literal (path : Path) : Operator → Operand → AtomKind → Prop
  | equals (v : Value) : Literal path .eq (.value v) (.equals path v)
  | notEquals (v : Value) : Literal path .notEq (.value v) (.notEquals path v)
  | compare {op : Operator} {c : Comparison} (v : Value) : op.comparison? = some c →
      Literal path op (.value v) (.compare path c v)
  | between (low high : Value) : Literal path .between (.range low high) (.between path low high)
  | resembles {source : String} {m : Matcher} : PatternReader.read source = .ok m →
      Literal path .matching (.pattern source) (.resembles path m)
  | isA (name : String) : Literal path .isA (.type name) (.isA path name)

variable {index : Nat} {s : Scope} {path : Path} {op : Operator} {operand : Operand}
  {kind : AtomKind}

lemma literal_of_literalKind (h : literalKind path op operand = .ok kind) :
    Literal path op operand kind := by
  cases operand with
  | none => cases op <;> cases h
  | value v =>
    cases op <;> cases h
    · exact .equals v
    · exact .notEquals v
    · exact .compare v rfl
    · exact .compare v rfl
    · exact .compare v rfl
    · exact .compare v rfl
  | range low high =>
    cases op <;> cases h
    exact .between low high
  | pattern source =>
    cases op <;> try cases h
    cases hm : PatternReader.read source with
    | error detail => simp [literalKind, hm] at h
    | ok m =>
      simp only [literalKind, hm] at h
      cases h
      exact .resembles hm
  | type name =>
    cases op <;> cases h
    exact .isA name
  | refs tags => cases op <;> cases h
  | nested test => cases op <;> cases h

lemma literalKind_of_literal (h : Literal path op operand kind) :
    literalKind path op operand = .ok kind := by
  cases h with
  | equals v => rfl
  | notEquals v => rfl
  | compare v hc =>
    cases op <;> cases hc <;> rfl
  | between low high => rfl
  | resembles hm => simp [literalKind, hm]
  | isA name => rfl

lemma Literal.plain (h : Literal path op operand kind) :
    op ≠ .ne ∧ (∀ tags, operand ≠ .refs tags) ∧ ∀ child, operand ≠ .nested child := by
  cases h with
  | compare v hc =>
    refine ⟨?_, by simp, by simp⟩
    rintro rfl
    cases hc
  | _ => simp

namespace PropertyTest

inductive Makes (index : Nat) (s : Scope) : PropertyTest → AtomKind → Prop
  | bind (path : Path) (tag : Option Tag) : Makes index s ⟨path, tag, none, .none⟩ (.bind path)
  | literal {path : Path} {op : Operator} {operand : Operand} {kind : AtomKind}
      (tag : Option Tag) : Literal path op operand kind →
      Makes index s ⟨path, tag, some op, operand⟩ kind
  | refs {path : Path} {op : Operator} {tags : List Tag} {kind : AtomKind} (tag : Option Tag) :
      op ≠ .ne → s.references index path op tags = .ok kind →
      Makes index s ⟨path, tag, some op, .refs tags⟩ kind
  | nested (path : Path) {op : Operator} (tag : Option Tag) (child : PropertyTest) :
      op ≠ .ne → op.arity = 1 →
      Makes index s ⟨path, tag, some op, .nested child⟩ (.selfReference path op [child.path])

lemma kindIn_refs {tag : Option Tag} {tags : List Tag} (hne : op ≠ .ne) :
    kindIn index s ⟨path, tag, some op, .refs tags⟩ = s.references index path op tags := by
  cases op <;> first | rfl | exact (hne rfl).elim

lemma kindIn_nested {tag : Option Tag} {child : PropertyTest} (hne : op ≠ .ne) :
    kindIn index s ⟨path, tag, some op, .nested child⟩ = .ok kind ↔
      op.arity = 1 ∧ kind = .selfReference path op [child.path] := by
  cases op <;> simp_all [kindIn, Operator.arity, eq_comm]

lemma kindIn_literal {tag : Option Tag} (hne : op ≠ .ne) (hr : ∀ tags, operand ≠ .refs tags)
    (hn : ∀ child, operand ≠ .nested child) :
    kindIn index s ⟨path, tag, some op, operand⟩ = literalKind path op operand := by
  cases operand with
  | refs tags => exact (hr tags rfl).elim
  | nested child => exact (hn child rfl).elim
  | none => cases op <;> first | rfl | exact (hne rfl).elim
  | value v => cases op <;> first | rfl | exact (hne rfl).elim
  | range low high => cases op <;> first | rfl | exact (hne rfl).elim
  | pattern source => cases op <;> first | rfl | exact (hne rfl).elim
  | type name => cases op <;> first | rfl | exact (hne rfl).elim

lemma makes_of_kindIn {t : PropertyTest} (h : t.kindIn index s = .ok kind) :
    Makes index s t kind := by
  obtain ⟨path, tag, op, operand⟩ := t
  cases op with
  | none =>
    cases operand <;> cases h
    exact .bind path tag
  | some op =>
    have hne : op ≠ .ne := by
      rintro rfl
      cases h
    cases operand with
    | refs tags => exact .refs tag hne (kindIn_refs hne ▸ h)
    | nested child =>
      obtain ⟨ha, rfl⟩ := (kindIn_nested hne).mp h
      exact .nested path tag child hne ha
    | none => cases op <;> cases h
    | value v =>
      rw [kindIn_literal hne (by simp) (by simp)] at h
      exact .literal tag (literal_of_literalKind h)
    | range low high =>
      rw [kindIn_literal hne (by simp) (by simp)] at h
      exact .literal tag (literal_of_literalKind h)
    | pattern source =>
      rw [kindIn_literal hne (by simp) (by simp)] at h
      exact .literal tag (literal_of_literalKind h)
    | type name =>
      rw [kindIn_literal hne (by simp) (by simp)] at h
      exact .literal tag (literal_of_literalKind h)

lemma kindIn_of_makes {t : PropertyTest} (h : Makes index s t kind) :
    t.kindIn index s = .ok kind := by
  cases h with
  | bind path tag => rfl
  | literal tag hl =>
    obtain ⟨hne, hr, hn⟩ := hl.plain
    rw [kindIn_literal hne hr hn, literalKind_of_literal hl]
  | refs tag hne hr => rw [kindIn_refs hne, hr]
  | nested path tag child hne ha => exact (kindIn_nested hne).mpr ⟨ha, rfl⟩

end PropertyTest

end Antecedent
