import Antecedent.Proofs.Pattern.Resolution
import Antecedent.Proofs.Scope.Agreement
import Mathlib.Data.List.Forall2

/-! Clauses that are alike up to the names of their tags and up to which values and predicates count
as the same. They resolve in parallel, into patterns that are alike again. -/

namespace Antecedent

structure Likeness where
  name : String → String
  value : Value → Value → Prop
  predicate : Predicate → Predicate → Prop

def Likeness.tag (l : Likeness) : Tag → Tag := Tag.rename l.name

inductive Operand.Alike (l : Likeness) : Operand → Operand → Prop
  | none : Alike l .none .none
  | value {v w : Value} : l.value v w → Alike l (.value v) (.value w)
  | range {low high low' high' : Value} : l.value low low' → l.value high high' →
      Alike l (.range low high) (.range low' high')
  | pattern (source : String) : Alike l (.pattern source) (.pattern source)
  | type (name : String) : Alike l (.type name) (.type name)
  | refs (tags : List Tag) : Alike l (.refs tags) (.refs (tags.map l.tag))

inductive PropertyTest.Alike (l : Likeness) : PropertyTest → PropertyTest → Prop
  | plain (path : Path) (tag : Option Tag) (op : Option Operator) {operand operand' : Operand} :
      operand.Alike l operand' →
      Alike l ⟨path, tag, op, operand⟩ ⟨path, tag.map l.tag, op, operand'⟩
  | nested (path : Path) (tag : Option Tag) (op : Option Operator) {child child' : PropertyTest} :
      Alike l child child' →
      Alike l ⟨path, tag, op, .nested child⟩ ⟨path, tag.map l.tag, op, .nested child'⟩

inductive Test.Alike (l : Likeness) : Test → Test → Prop
  | property {t u : PropertyTest} : t.Alike l u → Alike l (.property t) (.property u)
  | function {args args' : List Value} {p p' : Predicate} : List.Forall₂ l.value args args' →
      l.predicate p p' → Alike l (.function ⟨args, p⟩) (.function ⟨args', p'⟩)

inductive Token.Alike (l : Likeness) : Token → Token → Prop
  | modifier (m : Modifier) : Alike l (.modifier m) (.modifier m)
  | target (type : String) : Alike l (.target type) (.target type)
  | tag (t : Tag) : Alike l (.tag t) (.tag (l.tag t))
  | tests {ts us : List Test} : List.Forall₂ (Test.Alike l) ts us → Alike l (.tests ts) (.tests us)

def Clause.Alike (l : Likeness) (c d : Clause) : Prop :=
  List.Forall₂ (Token.Alike l) c.tokens d.tokens

inductive AtomKind.Alike (l : Likeness) : AtomKind → AtomKind → Prop
  | head : Alike l .head .head
  | bind (path : Path) : Alike l (.bind path) (.bind path)
  | equals (path : Path) {v w : Value} : l.value v w → Alike l (.equals path v) (.equals path w)
  | notEquals (path : Path) {v w : Value} : l.value v w →
      Alike l (.notEquals path v) (.notEquals path w)
  | compare (path : Path) (op : Comparison) {v w : Value} : l.value v w →
      Alike l (.compare path op v) (.compare path op w)
  | resembles (path : Path) (m : Matcher) : Alike l (.resembles path m) (.resembles path m)
  | between (path : Path) {low high low' high' : Value} : l.value low low' → l.value high high' →
      Alike l (.between path low high) (.between path low' high')
  | isA (path : Path) (type : String) : Alike l (.isA path type) (.isA path type)
  | reference (path : Path) (op : Operator) (tags : List Tag) :
      Alike l (.reference path op tags) (.reference path op (tags.map l.tag))
  | selfReference (path : Path) (op : Operator) (paths : List Path) :
      Alike l (.selfReference path op paths) (.selfReference path op paths)
  | function {args args' : List Value} {p p' : Predicate} : List.Forall₂ l.value args args' →
      l.predicate p p' → Alike l (.function args p) (.function args' p')

structure Atom.Alike (l : Likeness) (a b : Atom) : Prop where
  tag : b.tag = l.tag a.tag
  template : b.template = a.template
  kind : a.kind.Alike l b.kind

structure ClausePattern.Alike (l : Likeness) (p q : ClausePattern) : Prop where
  index : q.index = p.index
  kind : q.kind = p.kind
  head : p.head.Alike l q.head
  atoms : List.Forall₂ (Atom.Alike l) p.atoms q.atoms

structure Shape.Alike (l : Likeness) (a b : Shape) : Prop where
  negated : b.negated = a.negated
  subtype : b.subtype = a.subtype
  collected : b.collected = a.collected
  target : b.target = a.target
  tag : b.tag = a.tag.map l.tag
  tests : List.Forall₂ (Test.Alike l) a.tests b.tests

variable {l : Likeness} {index : Nat} {template : Template}

namespace Shape

variable {tokens tokens' : List Token} (h : List.Forall₂ (Token.Alike l) tokens tokens')
include h

lemma modifiers_alike : leadingModifiers tokens' = leadingModifiers tokens ∧
    List.Forall₂ (Token.Alike l) (afterModifiers tokens) (afterModifiers tokens') := by
  induction h with
  | nil => exact ⟨rfl, .nil⟩
  | cons ht hts ih =>
    cases ht with
    | modifier m => exact ⟨congrArg (m :: ·) ih.1, ih.2⟩
    | target type => exact ⟨rfl, .cons (.target type) hts⟩
    | tag t => exact ⟨rfl, .cons (.tag t) hts⟩
    | tests hs => exact ⟨rfl, .cons (.tests hs) hts⟩

lemma takeTarget_alike : (takeTarget tokens').1 = (takeTarget tokens).1 ∧
    List.Forall₂ (Token.Alike l) (takeTarget tokens).2 (takeTarget tokens').2 := by
  cases h with
  | nil => exact ⟨rfl, .nil⟩
  | cons ht hts =>
    cases ht with
    | target type => exact ⟨rfl, hts⟩
    | modifier m => exact ⟨rfl, .cons (.modifier m) hts⟩
    | tag t => exact ⟨rfl, .cons (.tag t) hts⟩
    | tests hs => exact ⟨rfl, .cons (.tests hs) hts⟩

lemma takeTag_alike : (takeTag tokens').1 = (takeTag tokens).1.map l.tag ∧
    List.Forall₂ (Token.Alike l) (takeTag tokens).2 (takeTag tokens').2 := by
  cases h with
  | nil => exact ⟨rfl, .nil⟩
  | cons ht hts =>
    cases ht with
    | tag t => exact ⟨rfl, hts⟩
    | modifier m => exact ⟨rfl, .cons (.modifier m) hts⟩
    | target type => exact ⟨rfl, .cons (.target type) hts⟩
    | tests hs => exact ⟨rfl, .cons (.tests hs) hts⟩

lemma takeTests_alike : List.Forall₂ (Test.Alike l) (takeTests tokens).1 (takeTests tokens').1 ∧
    List.Forall₂ (Token.Alike l) (takeTests tokens).2 (takeTests tokens').2 := by
  cases h with
  | nil => exact ⟨.nil, .nil⟩
  | cons ht hts =>
    cases ht with
    | tests hs => exact ⟨hs, hts⟩
    | modifier m => exact ⟨.nil, .cons (.modifier m) hts⟩
    | target type => exact ⟨.nil, .cons (.target type) hts⟩
    | tag t => exact ⟨.nil, .cons (.tag t) hts⟩

lemma ofTokens_alike :
    Agree ClauseFault.SameKind (Shape.Alike l) (ofTokens tokens) (ofTokens tokens') := by
  obtain ⟨hm, hafter⟩ := modifiers_alike h
  obtain ⟨htarget, hafter⟩ := takeTarget_alike hafter
  obtain ⟨htag, hafter⟩ := takeTag_alike hafter
  obtain ⟨htests, hrest⟩ := takeTests_alike hafter
  simp only [ofTokens, hm]
  by_cases he : .existing ∈ leadingModifiers tokens
  · rw [if_pos he, if_pos he]
    exact .error rfl
  · rw [if_neg he, if_neg he]
    revert hrest
    generalize (takeTests (takeTag (takeTarget (afterModifiers tokens)).2).2).2 = rest
    generalize (takeTests (takeTag (takeTarget (afterModifiers tokens')).2).2).2 = rest'
    intro hrest
    cases hrest with
    | nil => exact .ok ⟨rfl, rfl, rfl, htarget, htag, htests⟩
    | cons _ _ => exact .error rfl

end Shape

lemma Shape.Alike.template_eq {a b : Shape} (h : a.Alike l b) : b.template = a.template := by
  rw [Shape.template, Shape.template, h.target, h.subtype]

lemma Shape.Alike.kind_eq {a b : Shape} (h : a.Alike l b) : b.kind = a.kind := by
  rw [Shape.kind, Shape.kind, h.template_eq, h.negated, h.collected]

lemma literalKind_alike [PatternReader] {path : Path} {op : Operator} {operand operand' : Operand}
    (h : operand.Alike l operand') :
    Agree ClauseFault.SameKind (AtomKind.Alike l) (literalKind path op operand)
      (literalKind path op operand') := by
  cases h with
  | none => cases op <;> exact .error rfl
  | value hv =>
    cases op with
    | eq => exact .ok (.equals path hv)
    | notEq => exact .ok (.notEquals path hv)
    | gt | gte | lt | lte => exact .ok (.compare path _ hv)
    | ne | matching | between | isA => exact .error rfl
  | range hlow hhigh =>
    cases op with
    | between => exact .ok (.between path hlow hhigh)
    | _ => exact .error rfl
  | pattern source =>
    cases op with
    | matching =>
      simp only [literalKind]
      cases PatternReader.read source with
      | error detail => exact .error rfl
      | ok m => exact .ok (.resembles path m)
    | _ => exact .error rfl
  | type name =>
    cases op with
    | isA => exact .ok (.isA path name)
    | _ => exact .error rfl
  | refs tags => cases op <;> exact .error rfl

variable (hl : l.name.Injective)
include hl

lemma references_alike {s : Scope} {path : Path} {op : Operator} (tags : List Tag) :
    Agree ClauseFault.SameKind (AtomKind.Alike l) (s.references index path op tags)
      ((s.rename l.name).references index path op (tags.map l.tag)) := by
  rw [Scope.references, Scope.references, List.length_map]
  by_cases ha : tags.length = op.arity
  · rw [if_neg (not_not_intro ha), if_neg (not_not_intro ha)]
    -- The bindings that are found are the same on both sides, and only they decide the kind.
    apply (Scope.findAll_rename hl tags).bind
    rintro bs _ rfl
    dsimp only
    split
    · exact .ok (.reference path op tags)
    · split
      · exact .ok (.selfReference path op _)
      · exact .error rfl
  · rw [if_pos ha, if_pos ha]
    exact .error rfl

namespace PropertyTest

def AtomsAlike (l : Likeness) (r q : List Atom × Tag) : Prop :=
  List.Forall₂ (Atom.Alike l) r.1 q.1 ∧ q.2 = l.tag r.2

lemma finish_alike {t u : PropertyTest} (htag : u.tag = t.tag.map l.tag) (hpath : u.path = t.path)
    {inner inner' : List Atom} (hinner : List.Forall₂ (Atom.Alike l) inner inner')
    {kind kind' : AtomKind} (hkind : kind.Alike l kind') :
    Scoped.Parallel l.name (AtomsAlike l) (t.finish index template inner kind)
      (u.finish index template inner' kind') := by
  rw [finish, finish, htag, hpath]
  apply Scoped.Parallel.binding hl _
  intro own
  apply Scoped.Parallel.pure
  exact ⟨List.rel_append hinner (.cons ⟨rfl, rfl, hkind⟩ .nil), rfl⟩

variable [PatternReader]

lemma kindIn_alike {s : Scope} {path : Path} {tag tag' : Option Tag} {op : Option Operator}
    {operand operand' : Operand} (h : operand.Alike l operand') :
    Agree ClauseFault.SameKind (AtomKind.Alike l) (kindIn index s ⟨path, tag, op, operand⟩)
      (kindIn index (s.rename l.name) ⟨path, tag', op, operand'⟩) := by
  cases op with
  | none =>
    cases h with
    | none => exact .ok (.bind path)
    | _ => exact .error rfl
  | some op =>
    by_cases hne : op = .ne
    · subst hne
      exact .error rfl
    · cases h with
      | refs tags =>
        rw [kindIn_refs hne, kindIn_refs hne]
        exact references_alike hl tags
      | none | value | range | pattern | type =>
        rw [kindIn_literal hne (by simp) (by simp), kindIn_literal hne (by simp) (by simp)]
        apply literalKind_alike
        constructor <;> assumption

lemma resolve_alike {t u : PropertyTest} (h : t.Alike l u) :
    Scoped.Parallel l.name (AtomsAlike l) (t.resolve index template) (u.resolve index template) := by
  induction h with
  | @plain path tag op operand operand' ho =>
    have hsingle : (∀ child, operand = .nested child → False) ∧
        ∀ child, operand' = .nested child → False := by
      cases ho <;> exact ⟨by rintro _ ⟨⟩, by rintro _ ⟨⟩⟩
    rw [resolve_single hsingle.1, resolve_single hsingle.2]
    apply (Scoped.Parallel.check fun s => kindIn_alike hl ho).bind
    intro kind kind' hkind
    refine finish_alike hl ?_ ?_ .nil hkind <;> rfl
  | @nested path tag op child child' _ ih =>
    -- Without an operator, or with the one that is not allowed, the nested tests are not looked at.
    cases op with
    | none => exact .of_refused (fun _ => rfl) (fun _ => rfl) rfl
    | some op =>
      by_cases hne : op = .ne
      · subst hne
        exact .of_refused (fun _ => rfl) (fun _ => rfl) rfl
      · rw [resolve_nested hne, resolve_nested hne]
        apply ih.bind
        rintro ⟨inner, own⟩ ⟨inner', _⟩ ⟨hinner, rfl⟩
        apply (Scoped.Parallel.check fun s => references_alike hl [own]).bind
        intro kind kind' hkind
        refine finish_alike hl ?_ ?_ hinner hkind <;> rfl

end PropertyTest

variable [PatternReader]

lemma Test.resolve_alike {t u : Test} (h : t.Alike l u) :
    Scoped.Parallel l.name (List.Forall₂ (Atom.Alike l)) (t.resolve index template)
      (u.resolve index template) := by
  cases h with
  | property h =>
    apply (PropertyTest.resolve_alike hl h).bind
    rintro ⟨atoms, own⟩ ⟨atoms', own'⟩ ⟨hatoms, _⟩
    exact .pure hatoms
  | function hargs hp =>
    apply Scoped.Parallel.binding hl none
    intro own
    exact .pure (.cons ⟨rfl, rfl, .function hargs hp⟩ .nil)

lemma resolveTests_alike {ts us : List Test} (h : List.Forall₂ (Test.Alike l) ts us) :
    Scoped.Parallel l.name (List.Forall₂ (Atom.Alike l)) (resolveTests index template ts)
      (resolveTests index template us) := by
  induction h with
  | nil => exact .pure .nil
  | cons ht _ ih =>
    apply (Test.resolve_alike hl ht).bind
    intro atoms atoms' hatoms
    apply ih.bind
    intro more more' hmore
    exact .pure (List.rel_append hatoms hmore)

lemma Clause.resolve_alike {c d : Clause} (h : c.Alike l d) :
    Scoped.Parallel l.name (ClausePattern.Alike l) (c.resolve index) (d.resolve index) := by
  apply (Scoped.Parallel.check fun _ => Shape.ofTokens_alike h).bind
  intro shape shape' hshape
  rw [hshape.tag, hshape.template_eq, hshape.kind_eq]
  apply Scoped.Parallel.binding hl _
  intro own
  apply (resolveTests_alike hl hshape.tests).bind
  intro atoms atoms' hatoms
  exact .pure ⟨rfl, rfl, ⟨rfl, rfl, .head⟩, hatoms⟩

end Antecedent
