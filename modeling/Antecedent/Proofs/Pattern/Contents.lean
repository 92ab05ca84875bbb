import Antecedent.Proofs.Clause.Order
import Antecedent.Proofs.Pattern.Bindings
import Antecedent.Regex.Reading

/-! What a clause says is found again in its pattern: one atom for each test, nested tests first, each
with the contents of its test. -/

namespace Antecedent

def Scope.Le (s s' : Scope) : Prop := ∀ tag b, s.find? tag = some b → s'.find? tag = some b

/-- The atom kinds that keep all of a property test. Tags are looked up in `s`, and those that the
clause at `index` has bound give way to their paths. -/
inductive PropertyTest.Kept [PatternReader] (index : Nat) (s : Scope) (path : Path) :
    Option Operator → Operand → AtomKind → Prop
  | bind : Kept index s path none .none (.bind path)
  | equals (v : Value) : Kept index s path (some .eq) (.value v) (.equals path v)
  | notEquals (v : Value) : Kept index s path (some .notEq) (.value v) (.notEquals path v)
  | compare {op : Operator} {c : Comparison} (v : Value) : c.render = op.render →
      Kept index s path (some op) (.value v) (.compare path c v)
  | between (low high : Value) :
      Kept index s path (some .between) (.range low high) (.between path low high)
  | resembles {source : String} {m : Matcher} : m.source = source →
      PatternReader.read source = .ok m →
      Kept index s path (some .matching) (.pattern source) (.resembles path m)
  | isA (type : String) : Kept index s path (some .isA) (.type type) (.isA path type)
  | outside {op : Operator} {tags : List Tag} :
      (∀ tag ∈ tags, ∃ b, s.find? tag = some b ∧ b.clause ≠ index) →
      Kept index s path (some op) (.refs tags) (.reference path op tags)
  | inside {op : Operator} {tags : List Tag} {paths : List Path} :
      tags.map s.find? = paths.map (fun path => some ⟨index, path⟩) →
      Kept index s path (some op) (.refs tags) (.selfReference path op paths)
  | nested {op : Operator} (child : PropertyTest) :
      Kept index s path (some op) (.nested child) (.selfReference path op [child.path])

def Test.path? : Test → Option Path
  | .property t => some t.path
  | .function _ => none

inductive Test.Kept [PatternReader] (index : Nat) (s : Scope) : Test → AtomKind → Prop
  | property {t : PropertyTest} {kind : AtomKind} :
      PropertyTest.Kept index s t.path t.op t.operand kind → Kept index s (.property t) kind
  | function (f : FunctionTest) : Kept index s (.function f) (.function f.args f.predicate)

structure Test.KeptIn [PatternReader] (index : Nat) (s : Scope) (template : Template) (t : Test)
    (a : Atom) : Prop where
  template : a.template = template
  path : a.kind.path? = t.path?
  tag : ∀ tag ∈ (Site.test t).tag, a.tag = tag
  kind : t.Kept index s a.kind

variable {index : Nat} {template : Template} {s s₁ s' : Scope} {sites : List Site} {site : Site}
  {atoms : List Atom} {a : Atom} {kind : AtomKind}

namespace Scope.Le

lemma refl (s : Scope) : s.Le s := fun _ _ h => h

lemma trans (h : s.Le s₁) (h' : s₁.Le s') : s.Le s' := fun tag b hb => h' tag b (h tag b hb)

lemma of_append {more : List (Tag × Binding)} (h : s'.bindings = s.bindings ++ more) : s.Le s' := by
  intro tag b hb
  rw [find?] at hb
  rw [find?, h, List.lookup_append, hb, Option.some_or]

lemma map_find? (h : s.Le s') {tags : List Tag} {bs : List Binding}
    (hbs : tags.map s.find? = bs.map some) : tags.map s'.find? = bs.map some := by
  rw [← hbs]
  apply List.map_congr_left
  intro tag ht
  obtain ⟨b, _, hb⟩ := found hbs ht
  rw [hb, h tag b hb]

end Scope.Le

lemma Comparison.render_eq {op : Operator} {c : Comparison} (h : op.comparison? = some c) :
    c.render = op.render := by
  cases op <;> cases h <;> rfl

section Kinds

variable [PatternReader]

lemma Run.steps (h : Run index template s sites atoms s') :
    List.Forall₂ (fun site a => ∃ s₁ s₂, Step index template s₁ site a s₂ ∧ s₁.Le s') sites
      atoms := by
  induction h with
  | nil s => exact .nil
  | @cons s s₁ s' site a sites atoms hstep hrun ih =>
    refine .cons ⟨s, s₁, hstep, ?_⟩ ih
    exact (Scope.Le.of_append hstep.bindings).trans (Scope.Le.of_append hrun.bindings)

lemma PropertyTest.Makes.kept {t : PropertyTest} (hs : s.Le s') (h : Makes index s t kind) :
    Kept index s' t.path t.op t.operand kind := by
  cases h with
  | bind path tag => exact .bind
  | literal tag hl =>
    cases hl with
    | equals v => exact .equals v
    | notEquals v => exact .notEquals v
    | compare v hc => exact .compare v (Comparison.render_eq hc)
    | between low high => exact .between low high
    | resembles hm => exact .resembles (PatternReader.source_of_read hm) hm
    | isA type => exact .isA type
  | @refs path op tags _ tag _ hr =>
    obtain ⟨_, bs, hbs, ⟨hout, rfl⟩ | ⟨hin, rfl⟩⟩ := Scope.references_eq_ok.mp hr
    · apply Kept.outside
      intro tag ht
      obtain ⟨b, hb, hf⟩ := Scope.found hbs ht
      exact ⟨b, hs tag b hf, hout b hb⟩
    · apply Kept.inside
      rw [hs.map_find? hbs, List.map_map]
      apply List.map_congr_left
      intro b hb
      rw [Function.comp_apply, ← hin b hb]
  | nested path tag child _ _ => exact .nested child

lemma Step.tag_of_written (h : Step index template s site a s') : ∀ tag ∈ site.tag, a.tag = tag := by
  intro tag ht
  have hsupply := h.tag
  rw [Option.mem_def.mp ht] at hsupply
  exact hsupply.1

lemma Step.keptIn {t : Test} (h : Step index template s (.test t) a s₁) (hs : s.Le s') :
    t.KeptIn index s' template a where
  template := h.template
  path := by
    cases t with
    | property t => exact (PropertyTest.makes_of_kindIn h.kind).path?_eq
    | function f =>
      rw [← Except.ok.inj h.kind]
      rfl
  tag := h.tag_of_written
  kind := by
    cases t with
    | property t => exact .property ((PropertyTest.makes_of_kindIn h.kind).kept hs)
    | function f =>
      rw [← Except.ok.inj h.kind]
      exact .function f

end Kinds

section Modifiers

lemma Shape.flags {c : Clause} {shape : Shape} (h : c.shape = .ok shape) :
    (shape.negated = true ↔ .modifier .negated ∈ c.tokens) ∧
      (shape.subtype = true ↔ .modifier .subtyped ∈ c.tokens) ∧
      ∀ type, shape.target = some type ↔ .target type ∈ c.tokens := by
  have hshape := describes_of_ofTokens h
  obtain ⟨modifiers, block, ht, -⟩ := hshape.parts
  refine ⟨hshape.negated, hshape.subtype, fun type => ?_⟩
  rw [ht, mem_inOrder.2]

lemma Shape.mode_eq_subtype (shape : Shape) :
    shape.template.mode = .subtype ↔ shape.subtype = true ∨ shape.target = none := by
  rw [Shape.template]
  cases shape.target with
  | none => simp [Template.universal]
  | some type => cases shape.subtype <;> simp

lemma Shape.isNegated_kind (shape : Shape) : shape.kind.isNegated = shape.negated := by
  rw [Shape.kind]
  cases shape.negated <;> cases shape.template.mode == .subtype <;> cases shape.collected <;> rfl

end Modifiers

theorem resolve_keeps_tests [PatternReader] {index : Nat} {c : Clause} {s s' : Scope}
    {p : ClausePattern} (h : c.resolve index s = (.ok p, s')) :
    (p.head.kind = .head ∧ ∀ tag ∈ c.writtenTag, p.head.tag = tag) ∧
      List.Forall₂ (Test.KeptIn index s' p.head.template) c.flatTests p.atoms ∧
      (p.head.template.mode = .subtype ↔
        .modifier .subtyped ∈ c.tokens ∨ ∀ type, .target type ∉ c.tokens) ∧
      (p.kind.isNegated = true ↔ .modifier .negated ∈ c.tokens) := by
  obtain ⟨shape, hshape, _, hkind, hrun⟩ := Clause.resolve_ok.mp h
  obtain ⟨⟨s₁, s₂, hhead, _⟩, hatoms⟩ := List.forall₂_cons.mp hrun.steps
  obtain ⟨hnegated, hsubtype, htarget⟩ := Shape.flags hshape
  refine ⟨⟨(Except.ok.inj hhead.kind).symm, hhead.tag_of_written⟩, ?_, ?_, ?_⟩
  · rw [hhead.template]
    apply (List.forall₂_map_left_iff.mp hatoms).imp
    rintro t a ⟨s₁, s₂, hstep, hle⟩
    exact hstep.keptIn hle
  · rw [hhead.template, shape.mode_eq_subtype, hsubtype, Option.eq_none_iff_forall_ne_some]
    simp only [ne_eq, htarget]
  · rw [hkind, shape.isNegated_kind, hnegated]

def always : Predicate := ⟨0, fun _ _ => true⟩

def noQuote : Clause := ⟨[.modifier .negated, .target "Quote", .tag (.named "q"), .tests [
  .property ⟨⟨["ask"]⟩, none, some .gt, .nested ⟨⟨["bid"]⟩, none, some .gte,
    .nested ⟨⟨["mid"]⟩, some (.named "m"), none, .none⟩⟩⟩,
  .property ⟨⟨["size"]⟩, none, some .between, .refs [.named "m", .named "q"]⟩,
  .property ⟨⟨["price"]⟩, none, some .eq, .refs [.named "p"]⟩,
  .function ⟨[.int 3], always⟩]]⟩

def afterOrder : Scope := ⟨[(.generated 0, ⟨0, .root⟩), (.named "p", ⟨0, ⟨["price"]⟩⟩)], 1⟩

open scoped Regex

theorem noQuote_keeps_tests : ∃ p s', noQuote.resolve 1 afterOrder = (.ok p, s') ∧
    p.atoms.map (fun a => (a.tag, a.kind)) =
      [(.named "m", .bind ⟨["mid"]⟩),
        (.generated 1, .selfReference ⟨["bid"]⟩ .gte [⟨["mid"]⟩]),
        (.generated 2, .selfReference ⟨["ask"]⟩ .gt [⟨["bid"]⟩]),
        (.generated 3, .selfReference ⟨["size"]⟩ .between [⟨["mid"]⟩, .root]),
        (.generated 4, .reference ⟨["price"]⟩ .eq [.named "p"]),
        (.generated 5, .function [.int 3] always)] ∧
      List.Forall₂ (Test.KeptIn 1 s' p.head.template) noQuote.flatTests p.atoms ∧
      p.head.template.mode ≠ .subtype ∧ p.kind.isNegated = true := by
  have h : noQuote.resolve 1 afterOrder = (.ok _, _) := rfl
  obtain ⟨_, hatoms, hmode, hnegated⟩ := resolve_keeps_tests h
  refine ⟨_, _, h, rfl, hatoms, ?_, hnegated.mpr (by simp [noQuote])⟩
  rw [ne_eq, hmode]
  simp [noQuote]

end Antecedent
