import Antecedent.Proofs.Pattern.Resolution
import Antecedent.Proofs.Scope.Fresh

namespace Antecedent

variable {index : Nat} {template : Template} {s s₁ s' : Scope} {fault : ClauseFault} {tag : Tag}
  {site : Site} {sites more : List Site} {atoms : List Atom}

def Scope.Denies (s : Scope) : Option Tag → ClauseFault → Prop
  | some written, fault => s.isBound written = true ∧ fault = .duplicateTag written
  | none, fault => s.freshNumber? = none ∧ fault = .tagsExhausted

lemma Scope.Denies.fault_cases {written : Option Tag} (h : s.Denies written fault) :
    fault = .tagsExhausted ∨
      ∃ tag, written = some tag ∧ s.isBound tag = true ∧ fault = .duplicateTag tag := by
  cases written with
  | some tag => exact .inr ⟨tag, rfl, h.1, h.2⟩
  | none => exact .inl h.2

lemma binding_error {α : Type} {written : Option Tag} {path : Path} {next : Tag → Scoped α}
    (h : (do
      let own ← Scoped.tagOrFresh written
      Scoped.bindTag own ⟨index, path⟩
      next own : Scoped α) s = (.error fault, s')) :
    s.Denies written fault ∧ s' = s ∨
      ∃ own n, s.Supplies written own n ∧ s.find? own = none ∧
        next own ⟨s.bindings ++ [(own, ⟨index, path⟩)], n⟩ = (.error fault, s') := by
  rcases Scoped.bind_error.mp h with ht | ⟨own, s₁, ht, h⟩
  · obtain ⟨rfl, hn, rfl, rfl⟩ := Scoped.tagOrFresh_error ht
    exact .inl ⟨⟨hn, rfl⟩, rfl⟩
  obtain ⟨n, hs, rfl⟩ := Scoped.tagOrFresh_ok.mp ht
  rcases Scoped.bind_error.mp h with hb | ⟨_, s₂, hb, h⟩
  · obtain ⟨hbound, rfl, rfl⟩ := Scoped.bindTag_error hb
    cases written with
    | some tag =>
      obtain ⟨rfl, rfl⟩ := hs
      exact .inl ⟨⟨hbound, rfl⟩, rfl⟩
    | none =>
      obtain ⟨m, hm, rfl, rfl⟩ := hs
      have hfree : s.isBound (.generated m) = false := by
        rw [Scope.isBound, Scope.find?_freshNumber? hm, Option.isSome_none]
      exact (Bool.false_ne_true (hfree.symm.trans hbound)).elim
  · obtain ⟨hu, rfl⟩ := Scoped.bindTag_ok.mp hb
    exact .inr ⟨own, n, hs, hu, h⟩

lemma PropertyTest.finish_error {t : PropertyTest} {inner : List Atom} {kind : AtomKind}
    (h : t.finish index template inner kind s = (.error fault, s')) :
    s.Denies t.tag fault ∧ s' = s := by
  rcases binding_error h with hdenied | ⟨_, _, _, _, ⟨⟩⟩
  exact hdenied

variable [PatternReader]

/-- The next site is denied its tag, or one of the sites makes no atom. A test with an operator that
is never allowed is refused ahead of the tests nested in it. -/
inductive Blocked (index : Nat) (s : Scope) : List Site → ClauseFault → Prop
  | kind {site : Site} {sites : List Site} {fault : ClauseFault} : site ∈ sites →
      site.kindIn index s = .error fault → Blocked index s sites fault
  | tag {site : Site} {rest : List Site} {fault : ClauseFault} : s.Denies site.tag fault →
      Blocked index s (site :: rest) fault

def Halts (index : Nat) (template : Template) (s : Scope) (sites : List Site)
    (fault : ClauseFault) (s' : Scope) : Prop :=
  ∃ visited unvisited atoms, sites = visited ++ unvisited ∧
    Run index template s visited atoms s' ∧ Blocked index s' unvisited fault

namespace Halts

lemma of_blocked (h : Blocked index s sites fault) : Halts index template s sites fault s :=
  ⟨[], sites, [], rfl, .nil s, h⟩

lemma append (h : Halts index template s sites fault s') (more : List Site) :
    Halts index template s (sites ++ more) fault s' := by
  obtain ⟨visited, unvisited, atoms, rfl, hrun, hblocked⟩ := h
  refine ⟨visited, unvisited ++ more, atoms, List.append_assoc .., hrun, ?_⟩
  cases hblocked with
  | kind hsite hk => exact .kind (List.mem_append_left more hsite) hk
  | tag ht => exact .tag ht

lemma after (hfirst : Run index template s sites atoms s₁)
    (h : Halts index template s₁ more fault s') :
    Halts index template s (sites ++ more) fault s' := by
  obtain ⟨visited, unvisited, others, rfl, hrun, hblocked⟩ := h
  exact ⟨sites ++ visited, unvisited, atoms ++ others, (List.append_assoc ..).symm,
    run_append.mpr ⟨atoms, others, s₁, rfl, hfirst, hrun⟩, hblocked⟩

end Halts

lemma PropertyTest.kindIn_nested_eq {path : Path} {written : Option Tag} {op : Operator}
    {child : PropertyTest} (hne : op ≠ .ne) (hf : s.find? tag = some ⟨index, child.path⟩) :
    kindIn index s ⟨path, written, some op, .nested child⟩ = s.references index path op [tag] := by
  by_cases ha : op.arity = 1
  · rw [(kindIn_nested hne).mpr ⟨ha, rfl⟩, (references_child hf).mpr ⟨ha, rfl⟩]
  · cases op with
    | between => rfl
    | _ => exact (ha rfl).elim

lemma PropertyTest.resolve_error (t : PropertyTest)
    (h : t.resolve index template s = (.error fault, s')) :
    Halts index template s (Test.property t).sites fault s' := by
  induction t using PropertyTest.chain.induct generalizing s s' with
  | case1 path written op child ih =>
    rw [Test.sites_nested]
    have hlast : Site.test (.property ⟨path, written, op, .nested child⟩) ∈
        (Test.property child).sites ++ [.test (.property ⟨path, written, op, .nested child⟩)] := by
      simp
    cases op with
    | none =>
      cases h
      exact .of_blocked (.kind hlast rfl)
    | some op =>
      by_cases hne : op = .ne
      · subst hne
        cases h
        exact .of_blocked (.kind hlast rfl)
      · rw [resolve_nested hne] at h
        rcases Scoped.bind_error.mp h with hc | ⟨⟨inner, childTag⟩, s₁, hc, h⟩
        · exact (ih hc).append _
        · obtain ⟨more, b, rfl, rfl, hrun⟩ := child.resolve_ok.mp hc
          refine .after hrun ?_
          rcases Scoped.bind_error.mp h with hcheck | ⟨kind, _, hcheck, h⟩
          · obtain ⟨hk, rfl⟩ := Scoped.check_error.mp hcheck
            rw [← kindIn_nested_eq hne (find?_last hrun)] at hk
            exact .of_blocked (.kind (List.mem_singleton.mpr rfl) hk)
          · obtain ⟨-, rfl⟩ := Scoped.check_ok.mp hcheck
            obtain ⟨hdenied, rfl⟩ := finish_error h
            exact .of_blocked (.tag hdenied)
  | case2 t ho =>
    have hn : ∀ child, t.operand = .nested child → False := by
      intro child hc
      obtain ⟨path, written, op, operand⟩ := t
      exact ho path written op child (congrArg _ hc)
    rw [resolve_single hn] at h
    rw [Test.sites_single hn]
    rcases Scoped.bind_error.mp h with hcheck | ⟨kind, _, hcheck, h⟩
    · obtain ⟨hk, rfl⟩ := Scoped.check_error.mp hcheck
      exact .of_blocked (.kind (List.mem_singleton.mpr rfl) hk)
    · obtain ⟨-, rfl⟩ := Scoped.check_ok.mp hcheck
      obtain ⟨hdenied, rfl⟩ := finish_error h
      exact .of_blocked (.tag hdenied)

lemma Test.resolve_error (t : Test) (h : t.resolve index template s = (.error fault, s')) :
    Halts index template s t.sites fault s' := by
  cases t with
  | property t =>
    rcases Scoped.bind_error.mp h with ht | ⟨_, _, _, ⟨⟩⟩
    exact t.resolve_error ht
  | function f =>
    rw [Test.resolve, f.resolve_eq] at h
    rcases binding_error h with ⟨hdenied, rfl⟩ | ⟨_, _, _, _, ⟨⟩⟩
    exact .of_blocked (.tag hdenied)

lemma resolveTests_error (ts : List Test)
    (h : resolveTests index template ts s = (.error fault, s')) :
    Halts index template s (ts.flatMap Test.sites) fault s' := by
  induction ts generalizing s with
  | nil => cases h
  | cons t ts ih =>
    rw [List.flatMap_cons]
    rcases Scoped.bind_error.mp h with ht | ⟨atoms, s₁, ht, h⟩
    · exact (t.resolve_error ht).append _
    · rcases Scoped.bind_error.mp h with hts | ⟨_, _, _, ⟨⟩⟩
      exact .after (t.resolve_ok.mp ht) (ih hts)

lemma Clause.resolve_error {c : Clause} (h : c.resolve index s = (.error fault, s')) :
    c.shape = .error fault ∧ s' = s ∨
      ∃ shape, c.shape = .ok shape ∧ Halts index shape.template s c.sites fault s' := by
  rcases Scoped.bind_error.mp h with hcheck | ⟨shape, _, hcheck, h⟩
  · obtain ⟨hshape, rfl⟩ := Scoped.check_error.mp hcheck
    exact .inl ⟨hshape, rfl⟩
  · obtain ⟨hshape, rfl⟩ := Scoped.check_ok.mp hcheck
    refine .inr ⟨shape, hshape, ?_⟩
    rw [sites_of_shape hshape]
    rcases binding_error h with ⟨hdenied, rfl⟩ | ⟨own, n, hs, hu, h⟩
    · exact .of_blocked (.tag hdenied)
    · rcases Scoped.bind_error.mp h with hts | ⟨_, _, _, ⟨⟩⟩
      have hhead : Run index shape.template s [.head shape.tag] [⟨own, shape.template, .head⟩] _ :=
        run_singleton.mpr ⟨_, rfl, step_iff.mpr ⟨.head, own, n, rfl, hs, hu, rfl, rfl⟩⟩
      exact .after hhead (resolveTests_error shape.tests hts)

lemma Clause.exists_run (index : Nat) (c : Clause) (s : Scope) :
    ∃ template visited atoms, visited <+: c.sites ∧
      Run index template s visited atoms (c.resolve index s).2 := by
  rcases h : c.resolve index s with ⟨fault | p, s'⟩
  · rcases Clause.resolve_error h with
      ⟨-, rfl⟩ | ⟨shape, -, visited, unvisited, atoms, hsites, hrun, -⟩
    · exact ⟨.universal, [], [], List.nil_prefix, .nil s'⟩
    · exact ⟨shape.template, visited, atoms, ⟨unvisited, hsites.symm⟩, hrun⟩
  · obtain ⟨shape, _, _, _, hrun⟩ := Clause.resolve_ok.mp h
    exact ⟨shape.template, c.sites, _, List.prefix_refl _, hrun⟩

end Antecedent
