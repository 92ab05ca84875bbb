import Antecedent.Proofs.Pattern.Kinds

namespace Antecedent

variable {index : Nat} {template : Template} {s s' : Scope} {atoms : List Atom} {tag : Tag}

lemma binding_ok {α : Type} {written : Option Tag} {path : Path} {next : Tag → Scoped α} {c : α} :
    (do
      let own ← Scoped.tagOrFresh written
      Scoped.bindTag own ⟨index, path⟩
      next own : Scoped α) s = (.ok c, s') ↔
    ∃ own n, s.Supplies written own n ∧ s.find? own = none ∧
      next own ⟨s.bindings ++ [(own, ⟨index, path⟩)], n⟩ = (.ok c, s') := by
  simp only [Scoped.bind_ok, Scoped.tagOrFresh_ok, Scoped.bindTag_ok]
  constructor
  · rintro ⟨own, _, ⟨n, hs, rfl⟩, _, _, ⟨hu, rfl⟩, hn⟩
    exact ⟨own, n, hs, hu, hn⟩
  · rintro ⟨own, n, hs, hu, hn⟩
    exact ⟨own, _, ⟨n, hs, rfl⟩, (), _, ⟨hu, rfl⟩, hn⟩

lemma Test.sites_property (t : PropertyTest) :
    ∃ inner, (Test.property t).sites = inner ++ [.test (.property t)] := by
  simp only [Test.sites, Test.chain]
  unfold PropertyTest.chain
  split
  · next child => exact ⟨(Test.property child).sites, by simp [Test.sites, Test.chain]⟩
  · exact ⟨[], rfl⟩

lemma Test.sites_nested (path : Path) (tag : Option Tag) (op : Option Operator)
    (child : PropertyTest) :
    (Test.property ⟨path, tag, op, .nested child⟩).sites =
      (Test.property child).sites ++ [.test (.property ⟨path, tag, op, .nested child⟩)] := by
  simp [Test.sites, Test.chain, PropertyTest.chain]

lemma Test.sites_single {t : PropertyTest} (h : ∀ child, t.operand = .nested child → False) :
    (Test.property t).sites = [.test (.property t)] := by
  simp only [Test.sites, Test.chain]
  unfold PropertyTest.chain
  split
  · next child => exact (h child rfl).elim
  · rfl

def PropertyTest.finish (index : Nat) (template : Template) (t : PropertyTest)
    (inner : List Atom) (kind : AtomKind) : Scoped (List Atom × Tag) := do
  let own ← Scoped.tagOrFresh t.tag
  Scoped.bindTag own ⟨index, t.path⟩
  pure (inner ++ [⟨own, template, kind⟩], own)

lemma references_child {path : Path} {op : Operator} {child : Path} {kind : AtomKind}
    (hf : s.find? tag = some ⟨index, child⟩) :
    s.references index path op [tag] = .ok kind ↔
      op.arity = 1 ∧ kind = .selfReference path op [child] := by
  rw [Scope.references_eq_ok]
  constructor
  · rintro ⟨hl, bs, hbs, h⟩
    obtain rfl : bs = [⟨index, child⟩] := by
      cases bs with
      | nil => simp at hbs
      | cons b bs =>
        simp only [List.map_cons, List.map_nil, hf, List.cons.injEq, Option.some.injEq] at hbs
        rw [← hbs.1, List.map_eq_nil_iff.mp hbs.2.symm]
    rcases h with ⟨hne, _⟩ | ⟨_, rfl⟩
    · exact absurd rfl (hne _ (List.mem_singleton.mpr rfl))
    · exact ⟨hl.symm, rfl⟩
  · rintro ⟨hl, rfl⟩
    exact ⟨hl.symm, [⟨index, child⟩], by simp [hf], .inr ⟨by simp, rfl⟩⟩

lemma FunctionTest.resolve_eq (f : FunctionTest) : f.resolve index template = (do
    let own ← Scoped.tagOrFresh none
    Scoped.bindTag own ⟨index, .root⟩
    pure [⟨own, template, .function f.args f.predicate⟩]) := rfl

section Tests

variable [PatternReader]

lemma PropertyTest.finish_ok {t : PropertyTest} {inner : List Atom} {kind : AtomKind}
    (hk : t.kindIn index s = .ok kind) :
    t.finish index template inner kind s = (.ok (atoms, tag), s') ↔
      ∃ a, atoms = inner ++ [a] ∧ a.tag = tag ∧
        Step index template s (.test (.property t)) a s' := by
  simp only [finish, binding_ok, Scoped.pure_ok, step_iff, Prod.mk.injEq]
  constructor
  · rintro ⟨own, n, hs, hu, ⟨rfl, rfl⟩, rfl⟩
    exact ⟨⟨own, template, kind⟩, rfl, rfl, kind, own, n, hk, hs, hu, rfl, rfl⟩
  · rintro ⟨_, rfl, rfl, kind', own, n, hk', hs, hu, rfl, rfl⟩
    obtain rfl := Except.ok.inj (hk.symm.trans hk')
    exact ⟨own, n, hs, hu, ⟨rfl, rfl⟩, rfl⟩

lemma PropertyTest.resolve_single {t : PropertyTest}
    (ho : ∀ child, t.operand = .nested child → False) :
    t.resolve index template =
      Scoped.check (fun s => t.kindIn index s) >>= t.finish index template [] := by
  obtain ⟨path, tag, op, operand⟩ := t
  cases op with
  | none => cases operand <;> rfl
  | some op =>
    by_cases hne : op = .ne
    · subst hne
      rfl
    · cases operand with
      | nested child => exact (ho child rfl).elim
      | refs tags =>
        rw [PropertyTest.resolve]
        · cases op <;> first | rfl | exact (hne rfl).elim
        · exact hne
      | none => cases op <;> rfl
      | value v => cases op <;> rfl
      | range low high => cases op <;> rfl
      | pattern source => cases op <;> rfl
      | type name => cases op <;> rfl

lemma PropertyTest.resolve_nested {path : Path} {written : Option Tag} {op : Operator}
    {child : PropertyTest} (hne : op ≠ .ne) :
    resolve index template ⟨path, written, some op, .nested child⟩ = (do
      let (inner, childTag) ← child.resolve index template
      let kind ← Scoped.check fun s => s.references index path op [childTag]
      finish index template ⟨path, written, some op, .nested child⟩ inner kind) := by
  rw [PropertyTest.resolve]
  · rfl
  · exact hne

lemma run_property {t : PropertyTest} (h : Run index template s (Test.property t).sites atoms s') :
    ∃ first a s₁, atoms = first ++ [a] ∧ Step index template s₁ (.test (.property t)) a s' := by
  obtain ⟨inner, hi⟩ := Test.sites_property t
  rw [hi, run_concat] at h
  obtain ⟨first, a, s₁, ha, _, hs⟩ := h
  exact ⟨first, a, s₁, ha, hs⟩

lemma not_run_of_refused {t : PropertyTest} (h : ∀ s kind, t.kindIn index s ≠ .ok kind) :
    ¬ Run index template s (Test.property t).sites atoms s' := by
  intro hr
  obtain ⟨_, a, s₁, _, hs⟩ := run_property hr
  exact h s₁ a.kind hs.kind

lemma find?_last {t : PropertyTest} {more : List Atom} {a : Atom}
    (h : Run index template s (Test.property t).sites (more ++ [a]) s') :
    s'.find? a.tag = some ⟨index, t.path⟩ := by
  obtain ⟨first, b, s₁, hb, hs⟩ := run_property h
  obtain ⟨rfl, rfl⟩ : more = first ∧ a = b := by simpa using hb
  exact hs.find?_self

lemma PropertyTest.resolve_ok (t : PropertyTest) :
    t.resolve index template s = (.ok (atoms, tag), s') ↔
      ∃ inner a, atoms = inner ++ [a] ∧ a.tag = tag ∧
        Run index template s (Test.property t).sites atoms s' := by
  induction t using PropertyTest.chain.induct generalizing s s' atoms tag with
  | case1 path written op child ih =>
    -- Without an operator, or with the refused one, the nested test is not even looked at.
    have hstuck : op = none ∨ op = some .ne ∨ ∃ o, op = some o ∧ o ≠ .ne := by
      cases op with
      | none => exact .inl rfl
      | some o => by_cases ho : o = .ne <;> simp [ho]
    rcases hstuck with rfl | rfl | ⟨o, rfl, hne⟩
    · refine ⟨by rintro ⟨⟩, ?_⟩
      rintro ⟨_, _, _, _, hr⟩
      exact (not_run_of_refused (by rintro _ _ ⟨⟩) hr).elim
    · refine ⟨by rintro ⟨⟩, ?_⟩
      rintro ⟨_, _, _, _, hr⟩
      exact (not_run_of_refused (by rintro _ _ ⟨⟩) hr).elim
    · rw [resolve_nested hne, Test.sites_nested]
      simp only [Scoped.bind_ok, Scoped.check_ok]
      constructor
      · rintro ⟨⟨inner, childTag⟩, s₁, hc, kind, _, ⟨hk, rfl⟩, hf⟩
        obtain ⟨more, b, rfl, rfl, hrun⟩ := ih.mp hc
        have hkind : kindIn index s₁ ⟨path, written, some o, .nested child⟩ = .ok kind :=
          (kindIn_nested hne).mpr ((references_child (find?_last hrun)).mp hk)
        obtain ⟨a, rfl, ht, hs⟩ := (finish_ok hkind).mp hf
        exact ⟨_, a, rfl, ht, run_concat.mpr ⟨_, a, s₁, rfl, hrun, hs⟩⟩
      · rintro ⟨inner, a, rfl, rfl, hrun⟩
        obtain ⟨first, a', s₁, ha, hrun, hs⟩ := run_concat.mp hrun
        obtain ⟨rfl, rfl⟩ : inner = first ∧ a = a' := by simpa using ha
        obtain ⟨more, b, _, rfl, _⟩ := run_property hrun
        have hkind := (kindIn_nested hne).mp hs.kind
        exact ⟨(more ++ [b], b.tag), s₁, ih.mpr ⟨more, b, rfl, rfl, hrun⟩, a.kind, s₁,
          ⟨(references_child (find?_last hrun)).mpr hkind, rfl⟩,
          (finish_ok hs.kind).mpr ⟨a, rfl, rfl, hs⟩⟩
  | case2 t ho =>
    have hn : ∀ child, t.operand = .nested child → False := by
      intro child hc
      obtain ⟨path, written, op, operand⟩ := t
      exact ho path written op child (congrArg _ hc)
    rw [resolve_single hn, Scoped.bind_ok, Test.sites_single hn]
    simp only [Scoped.check_ok, run_singleton]
    constructor
    · rintro ⟨kind, _, ⟨hk, rfl⟩, hf⟩
      obtain ⟨a, rfl, ht, hs⟩ := (finish_ok hk).mp hf
      exact ⟨[], a, rfl, ht, a, rfl, hs⟩
    · rintro ⟨inner, a, rfl, ht, b, hb, hs⟩
      obtain ⟨rfl, rfl⟩ : inner = [] ∧ a = b := by
        cases inner <;> simp_all
      exact ⟨a.kind, s, ⟨hs.kind, rfl⟩, (finish_ok hs.kind).mpr ⟨a, rfl, ht, hs⟩⟩

lemma FunctionTest.resolve_ok (f : FunctionTest) :
    f.resolve index template s = (.ok atoms, s') ↔
      Run index template s (Test.function f).sites atoms s' := by
  have hsites : (Test.function f).sites = [.test (.function f)] := rfl
  simp only [f.resolve_eq, hsites, binding_ok, Scoped.pure_ok, run_singleton, step_iff]
  constructor
  · rintro ⟨own, n, hs, hu, rfl, rfl⟩
    exact ⟨_, rfl, _, own, n, rfl, hs, hu, rfl, rfl⟩
  · rintro ⟨_, rfl, kind, own, n, hk, hs, hu, rfl, rfl⟩
    obtain rfl := Except.ok.inj hk
    exact ⟨own, n, hs, hu, rfl, rfl⟩

lemma Test.resolve_ok (t : Test) : t.resolve index template s = (.ok atoms, s') ↔
    Run index template s t.sites atoms s' := by
  cases t with
  | function f => exact f.resolve_ok
  | property t =>
    simp only [Test.resolve, Scoped.bind_ok, Scoped.pure_ok]
    constructor
    · rintro ⟨⟨atoms, tag⟩, s₁, hr, rfl, rfl⟩
      obtain ⟨_, _, _, _, hrun⟩ := t.resolve_ok.mp hr
      exact hrun
    · intro hrun
      obtain ⟨inner, a, _, rfl, _⟩ := run_property hrun
      exact ⟨(inner ++ [a], a.tag), s', t.resolve_ok.mpr ⟨inner, a, rfl, rfl, hrun⟩, rfl, rfl⟩

lemma resolveTests_ok (ts : List Test) : resolveTests index template ts s = (.ok atoms, s') ↔
    Run index template s (ts.flatMap Test.sites) atoms s' := by
  induction ts generalizing s s' atoms with
  | nil =>
    simp only [resolveTests, Scoped.pure_ok, List.flatMap_nil, run_nil]
    exact and_congr_left fun _ => eq_comm
  | cons t ts ih =>
    simp only [resolveTests, Scoped.bind_ok, Scoped.pure_ok, List.flatMap_cons, run_append,
      Test.resolve_ok, ih]
    constructor
    · rintro ⟨first, s₁, hf, rest, _, hr, rfl, rfl⟩
      exact ⟨first, rest, s₁, rfl, hf, hr⟩
    · rintro ⟨first, rest, s₁, rfl, hf, hr⟩
      exact ⟨first, s₁, hf, rest, s', hr, rfl, rfl⟩

end Tests

namespace Clause

section Tokens

variable {c : Clause} {modifiers : List Modifier} {target : Option String} {tag : Option Tag}
  {block : Option (List Test)} (h : c.tokens = inOrder modifiers target tag block)
include h

lemma writtenTag_of_inOrder : c.writtenTag = tag := by
  have hm : (modifiers.map Token.modifier).findSome? Token.tag? = none := by
    simp [List.findSome?_eq_none_iff, Token.tag?]
  rw [writtenTag, h, inOrder, List.findSome?_append, hm]
  cases target <;> cases tag <;> cases block <;> rfl

lemma writtenTests_of_inOrder : c.writtenTests = block.getD [] := by
  have hm : (modifiers.map Token.modifier).flatMap Token.block = [] := by
    simp [List.flatMap_eq_nil_iff, Token.block]
  rw [writtenTests, h, inOrder, List.flatMap_append, hm]
  cases target <;> cases tag <;> cases block <;> simp [Token.block]

end Tokens

lemma sites_of_shape {c : Clause} {shape : Shape} (h : c.shape = .ok shape) :
    c.sites = .head shape.tag :: shape.tests.flatMap Test.sites := by
  obtain ⟨modifiers, block, _, ht, hb⟩ := Shape.inOrder_of_ofTokens h
  rw [sites, flatTests, writtenTag_of_inOrder ht, writtenTests_of_inOrder ht, ← hb,
    List.map_flatMap]
  rfl

lemma resolve_ok [PatternReader] {c : Clause} {p : ClausePattern} :
    c.resolve index s = (.ok p, s') ↔
      ∃ shape, c.shape = .ok shape ∧ p.index = index ∧ p.kind = shape.kind ∧
        Run index shape.template s c.sites (p.head :: p.atoms) s' := by
  rw [Clause.resolve, Scoped.bind_ok]
  simp only [Scoped.check_ok, binding_ok]
  simp only [Scoped.bind_ok, Scoped.pure_ok, resolveTests_ok]
  constructor
  · rintro ⟨shape, _, ⟨hshape, rfl⟩, own, n, hs, hu, atoms, _, hrun, rfl, rfl⟩
    refine ⟨shape, hshape, rfl, rfl, ?_⟩
    rw [sites_of_shape hshape]
    exact .cons (step_iff.mpr ⟨.head, own, n, rfl, hs, hu, rfl, rfl⟩) hrun
  · rintro ⟨shape, hshape, rfl, hkind, hrun⟩
    rw [sites_of_shape hshape] at hrun
    obtain ⟨a, s₁, more, ha, hstep, hrun⟩ := run_cons.mp hrun
    obtain ⟨rfl, rfl⟩ := List.cons.inj ha
    obtain ⟨kind, own, n, hk, hs, hu, hp, rfl⟩ := step_iff.mp hstep
    obtain rfl := Except.ok.inj hk
    refine ⟨shape, s, ⟨hshape, rfl⟩, own, n, hs, hu, p.atoms, s', hrun, ?_, rfl⟩
    rw [← hp, ← hkind]

end Clause

end Antecedent
