import Antecedent.Proofs.Clause.Tokens
import Antecedent.Proofs.Scope.Steps

/-! A clause as a row of sites: its head, then its tests, each behind the tests nested in it. To
resolve the clause is to visit the sites in order and to bind one tag at each. -/

namespace Antecedent

inductive Site where
  | head (tag : Option Tag)
  | test (t : Test)

def PropertyTest.chain : PropertyTest → List PropertyTest
  | ⟨path, tag, op, .nested child⟩ => child.chain ++ [⟨path, tag, op, .nested child⟩]
  | t => [t]

def Test.chain : Test → List Test
  | .property t => t.chain.map .property
  | .function f => [.function f]

def Test.sites (t : Test) : List Site := t.chain.map .test

def Token.tag? : Token → Option Tag
  | .tag t => some t
  | _ => none

def Token.block : Token → List Test
  | .tests ts => ts
  | _ => []

namespace Clause

def writtenTag (c : Clause) : Option Tag := c.tokens.findSome? Token.tag?

def writtenTests (c : Clause) : List Test := c.tokens.flatMap Token.block

def flatTests (c : Clause) : List Test := c.writtenTests.flatMap Test.chain

def sites (c : Clause) : List Site := .head c.writtenTag :: c.flatTests.map .test

end Clause

variable [PatternReader]

def PropertyTest.kindIn (index : Nat) (s : Scope) (t : PropertyTest) :
    Except ClauseFault AtomKind :=
  match t.op, t.operand with
  | some .ne, _ => .error (.disallowedOperator t.path.render .ne)
  | none, .none => .ok (.bind t.path)
  | none, operand => .error (.noOperator t.path operand)
  | some op, .refs tags => s.references index t.path op tags
  | some op, .nested child =>
    if op.arity = 1 then .ok (.selfReference t.path op [child.path])
    else .error (.wrongArity t.path op 1)
  | some op, operand => literalKind t.path op operand

namespace Site

def tag : Site → Option Tag
  | .head tag => tag
  | .test (.property t) => t.tag
  | .test (.function _) => none

def path : Site → Path
  | .test (.property t) => t.path
  | _ => .root

def kindIn (index : Nat) (s : Scope) : Site → Except ClauseFault AtomKind
  | .head _ => .ok .head
  | .test (.property t) => t.kindIn index s
  | .test (.function f) => .ok (.function f.args f.predicate)

end Site

structure Step (index : Nat) (template : Template) (s : Scope) (site : Site) (a : Atom)
    (s' : Scope) : Prop where
  kind : site.kindIn index s = .ok a.kind
  template : a.template = template
  tag : s.Supplies site.tag a.tag s'.next
  unbound : s.find? a.tag = none
  bindings : s'.bindings = s.bindings ++ [(a.tag, ⟨index, site.path⟩)]

inductive Run (index : Nat) (template : Template) :
    Scope → List Site → List Atom → Scope → Prop
  | nil (s : Scope) : Run index template s [] [] s
  | cons {s s₁ s' : Scope} {site : Site} {a : Atom} {sites : List Site} {atoms : List Atom} :
      Step index template s site a s₁ → Run index template s₁ sites atoms s' →
      Run index template s (site :: sites) (a :: atoms) s'

variable {index : Nat} {template : Template} {s s' : Scope} {site : Site} {a : Atom}
  {sites : List Site} {atoms : List Atom}

lemma run_nil : Run index template s [] atoms s' ↔ atoms = [] ∧ s = s' := by
  constructor
  · intro h
    cases h
    exact ⟨rfl, rfl⟩
  · rintro ⟨rfl, rfl⟩
    exact .nil s

lemma run_cons : Run index template s (site :: sites) atoms s' ↔
    ∃ a s₁ more, atoms = a :: more ∧ Step index template s site a s₁ ∧
      Run index template s₁ sites more s' := by
  constructor
  · intro h
    cases h with
    | cons hs hr => exact ⟨_, _, _, rfl, hs, hr⟩
  · rintro ⟨a, s₁, more, rfl, hs, hr⟩
    exact .cons hs hr

lemma run_singleton : Run index template s [site] atoms s' ↔
    ∃ a, atoms = [a] ∧ Step index template s site a s' := by
  simp only [run_cons, run_nil]
  constructor
  · rintro ⟨a, _, _, rfl, hs, rfl, rfl⟩
    exact ⟨a, rfl, hs⟩
  · rintro ⟨a, rfl, hs⟩
    exact ⟨a, s', [], rfl, hs, rfl, rfl⟩

lemma run_append {more : List Site} : Run index template s (sites ++ more) atoms s' ↔
    ∃ first rest s₁, atoms = first ++ rest ∧ Run index template s sites first s₁ ∧
      Run index template s₁ more rest s' := by
  induction sites generalizing s atoms with
  | nil =>
    constructor
    · intro h
      exact ⟨[], atoms, s, rfl, .nil s, h⟩
    · rintro ⟨first, rest, s₁, rfl, hf, hr⟩
      obtain ⟨rfl, rfl⟩ := run_nil.mp hf
      exact hr
  | cons site sites ih =>
    rw [List.cons_append, run_cons]
    constructor
    · rintro ⟨a, s₁, others, rfl, hs, hr⟩
      obtain ⟨first, rest, s₂, rfl, hf, hr⟩ := ih.mp hr
      exact ⟨a :: first, rest, s₂, rfl, .cons hs hf, hr⟩
    · rintro ⟨first, rest, s₂, rfl, hf, hr⟩
      obtain ⟨a, s₁, others, rfl, hs, hf⟩ := run_cons.mp hf
      exact ⟨a, s₁, others ++ rest, rfl, hs, ih.mpr ⟨others, rest, s₂, rfl, hf, hr⟩⟩

lemma run_concat : Run index template s (sites ++ [site]) atoms s' ↔
    ∃ first a s₁, atoms = first ++ [a] ∧ Run index template s sites first s₁ ∧
      Step index template s₁ site a s' := by
  rw [run_append]
  constructor
  · rintro ⟨first, rest, s₁, rfl, hf, hr⟩
    obtain ⟨a, rfl, hs⟩ := run_singleton.mp hr
    exact ⟨first, a, s₁, rfl, hf, hs⟩
  · rintro ⟨first, a, s₁, rfl, hf, hs⟩
    exact ⟨first, [a], s₁, rfl, hf, run_singleton.mpr ⟨a, rfl, hs⟩⟩

lemma step_iff : Step index template s site a s' ↔
    ∃ kind own next, site.kindIn index s = .ok kind ∧ s.Supplies site.tag own next ∧
      s.find? own = none ∧ a = ⟨own, template, kind⟩ ∧
      s' = ⟨s.bindings ++ [(own, ⟨index, site.path⟩)], next⟩ := by
  constructor
  · rintro ⟨hk, rfl, ht, hu, hb⟩
    refine ⟨a.kind, a.tag, s'.next, hk, ht, hu, rfl, ?_⟩
    rw [← hb]
  · rintro ⟨kind, own, next, hk, ht, hu, rfl, rfl⟩
    exact ⟨hk, rfl, ht, hu, rfl⟩

lemma Step.find?_self (h : Step index template s site a s') :
    s'.find? a.tag = some ⟨index, site.path⟩ := by
  have hn : s.bindings.lookup a.tag = none := h.unbound
  simp [Scope.find?, h.bindings, List.lookup_append, hn]

lemma Step.find?_of_ne {tag : Tag} (h : Step index template s site a s') (hne : tag ≠ a.tag) :
    s'.find? tag = s.find? tag := by
  have hb : (tag == a.tag) = false := beq_eq_false_iff_ne.mpr hne
  simp [Scope.find?, h.bindings, List.lookup_append, List.lookup_cons, hb]

end Antecedent
