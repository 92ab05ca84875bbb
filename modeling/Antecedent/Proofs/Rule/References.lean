import Antecedent.Proofs.Pattern.Bindings
import Antecedent.Regex.Reading

/-! References to tags: those to other clauses point backwards, and those inside a clause carry the
paths that their tags stand for. -/

namespace Antecedent

def boundPath? (atoms : List Atom) (tag : Tag) : Option Path :=
  (atoms.find? (·.tag == tag)).map Atom.boundPath

lemma lookup_bindings (index : Nat) (atoms : List Atom) (tag : Tag) :
    (atoms.map (Atom.binding index)).lookup tag =
      (boundPath? atoms tag).map fun path => ⟨index, path⟩ := by
  induction atoms with
  | nil => rfl
  | cons a atoms ih =>
    rw [List.map_cons, Atom.binding, List.lookup_cons, boundPath?, List.find?_cons]
    by_cases ha : a.tag = tag
    · simp [ha]
    · have hb : (a.tag == tag) = false := beq_eq_false_iff_ne.mpr ha
      have hb' : (tag == a.tag) = false := beq_eq_false_iff_ne.mpr (Ne.symm ha)
      simp only [hb, hb']
      exact ih

/-- The references in the compiled form of a row of clauses. The atoms of a clause stand at the
places of the tests that they come from. -/
structure ReferencesResolved (row : List Clause) (ps : List ClausePattern) : Prop where
  length : ps.length = row.length
  backward : ∀ (i : Nat) (p : ClausePattern), ps[i]? = some p → p.index = i ∧
    ∀ a ∈ p.head :: p.atoms, ∀ path op tags, a.kind = .reference path op tags →
      tags.length = op.arity ∧
        ∀ tag ∈ tags, ∃ (j : Nat) (q : ClausePattern), j < i ∧ ps[j]? = some q ∧ tag ∈ q.tags
  inside : ∀ (i : Nat) (c : Clause) (p : ClausePattern), row[i]? = some c → ps[i]? = some p →
    p.atoms.length = c.flatTests.length ∧
      ∀ (k : Nat) (a : Atom) (t : PropertyTest) (tags : List Tag) path op paths,
        p.atoms[k]? = some a → c.flatTests[k]? = some (.property t) → t.operand = .refs tags →
        a.kind = .selfReference path op paths →
        t.path = path ∧ t.op = some op ∧
          paths.map some = tags.map (boundPath? (p.head :: p.atoms.take k))

variable {rule : String} {row : List Clause} {ps : List ClausePattern} {i : Nat} {c : Clause}
  {p : ClausePattern} {s s₁ s' : Scope} {tag : Tag} {b : Binding}

lemma Scope.mem_of_references {path : Path} {op : Operator} {tags : List Tag}
    (h : s.references i path op tags = .ok (.reference path op tags)) (ht : tag ∈ tags) :
    ∃ b, (tag, b) ∈ s.bindings ∧ b.clause ≠ i := by
  obtain ⟨_, bs, hbs, ⟨hother, _⟩ | ⟨_, he⟩⟩ := references_eq_ok.mp h
  · obtain ⟨b, hb, hf⟩ := found hbs ht
    exact ⟨b, mem_of_find? hf, hother b hb⟩
  · cases he

lemma boundPath?_of_find? {earlier : List (Tag × Binding)} {atoms : List Atom}
    (hs : s.bindings = earlier ++ atoms.map (Atom.binding i))
    (hlt : ∀ tag b, (tag, b) ∈ earlier → b.clause < i) (hf : s.find? tag = some b)
    (hi : b.clause = i) : boundPath? atoms tag = some b.path := by
  rw [Scope.find?, hs, List.lookup_append, lookup_bindings] at hf
  cases he : earlier.lookup tag with
  | some b' =>
    rw [he, Option.some_or] at hf
    obtain rfl := Option.some.inj hf
    have hm := Scope.mem_of_find? (s := ⟨earlier, 0⟩) he
    exact absurd hi (Nat.ne_of_lt (hlt tag b' hm))
  | none =>
    rw [he, Option.none_or, Option.map_eq_some_iff] at hf
    obtain ⟨path, hpath, rfl⟩ := hf
    exact hpath

section Rows

variable [PatternReader]

lemma exists_clause_at (h : compileRow rule 0 .empty row = .ok ps) (hp : ps[i]? = some p) :
    ∃ c, row[i]? = some c := by
  obtain ⟨hi, _⟩ := List.getElem?_eq_some_iff.mp hp
  rw [compileRow_length h] at hi
  exact ⟨row[i], List.getElem?_eq_getElem hi⟩

lemma compileRow_index (h : compileRow rule 0 .empty row = .ok ps) (hp : ps[i]? = some p) :
    p.index = i := by
  obtain ⟨c, hc⟩ := exists_clause_at h hp
  obtain ⟨_, _, hr, _⟩ := compileRow_at h hc hp
  simpa using (Clause.resolve_bindings hr).1

lemma bound_earlier (h : compileRow rule 0 .empty row = .ok ps)
    (hb : (tag, b) ∈ (ps.take i).flatMap ClausePattern.bindings) :
    b.clause < i ∧ ∃ (j : Nat) (q : ClausePattern), j < i ∧ ps[j]? = some q ∧ tag ∈ q.tags := by
  obtain ⟨q, hq, hm⟩ := List.mem_flatMap.mp hb
  obtain ⟨j, hj⟩ := List.mem_iff_getElem?.mp hq
  have hlt : j < i := by
    by_contra hge
    rw [List.getElem?_take_eq_none (by omega)] at hj
    cases hj
  rw [List.getElem?_take_of_lt hlt] at hj
  obtain ⟨a, ha, he⟩ := List.mem_map.mp hm
  cases he
  refine ⟨?_, j, q, hlt, hj, List.mem_map.mpr ⟨a, ha, rfl⟩⟩
  change q.index < i
  rw [compileRow_index h hj]
  exact hlt

lemma atom_scope (h : compileRow rule 0 .empty row = .ok ps) (hc : row[i]? = some c)
    (hp : ps[i]? = some p) {k : Nat} {a : Atom} (ha : (p.head :: p.atoms)[k]? = some a) :
    ∃ site s₁, c.sites[k]? = some site ∧ site.kindIn i s₁ = .ok a.kind ∧
      s₁.bindings = (ps.take i).flatMap ClausePattern.bindings ++
        ((p.head :: p.atoms).take k).map (Atom.binding i) := by
  obtain ⟨s, s', hr, hs⟩ := compileRow_at h hc hp
  rw [Nat.zero_add] at hr
  obtain ⟨shape, _, _, _, hrun⟩ := Clause.resolve_ok.mp hr
  obtain ⟨site, s₁, hsite, hk, hb⟩ := hrun.kind_at ha
  refine ⟨site, s₁, hsite, hk, ?_⟩
  rw [hb, hs]
  rfl

lemma Site.references_of_reference {site : Site} {path : Path} {op : Operator} {tags : List Tag}
    (h : site.kindIn i s = .ok (.reference path op tags)) :
    s.references i path op tags = .ok (.reference path op tags) := by
  cases site with
  | head tag => cases h
  | test t =>
    cases t with
    | function f => cases h
    | property t =>
      cases PropertyTest.makes_of_kindIn h with
      | literal tag hl => cases hl
      | refs tag _ hr =>
        obtain ⟨_, _, _, ⟨_, he⟩ | ⟨_, he⟩⟩ := Scope.references_eq_ok.mp hr
        · cases he
          exact hr
        · cases he

lemma references_of_selfReference {t : PropertyTest} {path : Path} {op : Operator}
    {tags : List Tag} {paths : List Path} (ht : t.operand = .refs tags)
    (h : t.kindIn i s = .ok (.selfReference path op paths)) :
    t.path = path ∧ t.op = some op ∧
      s.references i path op tags = .ok (.selfReference path op paths) := by
  cases PropertyTest.makes_of_kindIn h with
  | literal tag hl => cases hl
  | refs tag _ hr =>
    cases ht
    obtain ⟨_, _, _, ⟨_, he⟩ | ⟨_, he⟩⟩ := Scope.references_eq_ok.mp hr
    · cases he
    · cases he
      exact ⟨rfl, rfl, hr⟩
  | nested => cases ht

lemma references_backward (h : compileRow rule 0 .empty row = .ok ps) (hp : ps[i]? = some p)
    {a : Atom} (ha : a ∈ p.head :: p.atoms) {path : Path} {op : Operator} {tags : List Tag}
    (hk : a.kind = .reference path op tags) :
    tags.length = op.arity ∧
      ∀ tag ∈ tags, ∃ (j : Nat) (q : ClausePattern), j < i ∧ ps[j]? = some q ∧ tag ∈ q.tags := by
  obtain ⟨c, hc⟩ := exists_clause_at h hp
  obtain ⟨k, hak⟩ := List.mem_iff_getElem?.mp ha
  obtain ⟨site, s₁, _, hkind, hb⟩ := atom_scope h hc hp hak
  rw [hk] at hkind
  have hr := Site.references_of_reference hkind
  refine ⟨(Scope.references_eq_ok.mp hr).1, fun tag ht => ?_⟩
  obtain ⟨b, hmem, hne⟩ := Scope.mem_of_references hr ht
  rw [hb, List.mem_append] at hmem
  -- A tag bound inside the clause itself would have made a reference of the other kind.
  rcases hmem with hmem | hmem
  · exact (bound_earlier h hmem).2
  · obtain ⟨_, _, he⟩ := List.mem_map.mp hmem
    cases he
    exact (hne rfl).elim

lemma references_inside (h : compileRow rule 0 .empty row = .ok ps) (hc : row[i]? = some c)
    (hp : ps[i]? = some p) {k : Nat} {a : Atom} {t : PropertyTest} {tags : List Tag} {path : Path}
    {op : Operator} {paths : List Path} (ha : p.atoms[k]? = some a)
    (ht : c.flatTests[k]? = some (.property t)) (hrefs : t.operand = .refs tags)
    (hk : a.kind = .selfReference path op paths) :
    t.path = path ∧ t.op = some op ∧
      paths.map some = tags.map (boundPath? (p.head :: p.atoms.take k)) := by
  obtain ⟨site, s₁, hsite, hkind, hb⟩ :=
    atom_scope h hc hp (k := k + 1) (by simpa using ha)
  obtain rfl : .test (.property t) = site := by simpa [Clause.sites, ht] using hsite
  rw [hk] at hkind
  obtain ⟨hpath, hop, hr⟩ := references_of_selfReference hrefs hkind
  refine ⟨hpath, hop, ?_⟩
  obtain ⟨_, bs, hbs, ⟨_, he⟩ | ⟨hown, he⟩⟩ := Scope.references_eq_ok.mp hr
  · cases he
  cases he
  have hlook : ∀ tag ∈ tags, boundPath? (p.head :: p.atoms.take k) tag =
      (s₁.find? tag).map Binding.path := by
    intro tag htag
    obtain ⟨b, hbm, hf⟩ := Scope.found hbs htag
    rw [hf]
    exact boundPath?_of_find? hb (fun _ _ hm => (bound_earlier h hm).1) hf (hown b hbm)
  calc (bs.map Binding.path).map some = (bs.map some).map (Option.map Binding.path) := by simp
    _ = (tags.map s₁.find?).map (Option.map Binding.path) := by rw [hbs]
    _ = tags.map (boundPath? (p.head :: p.atoms.take k)) := by
      rw [List.map_map]
      exact List.map_congr_left fun tag htag => (hlook tag htag).symm

lemma referencesResolved_of_compileRow (h : compileRow rule 0 .empty row = .ok ps) :
    ReferencesResolved row ps where
  length := compileRow_length h
  backward i p hp :=
    ⟨compileRow_index h hp, fun _ ha _ _ _ hk => references_backward h hp ha hk⟩
  inside i c p hc hp := by
    refine ⟨?_, fun k a t tags path op paths => references_inside h hc hp⟩
    obtain ⟨s, s', hr, _⟩ := compileRow_at h hc hp
    obtain ⟨_, _, _, _, hrun⟩ := Clause.resolve_ok.mp hr
    simpa [Clause.sites] using hrun.length

end Rows

theorem compile_references_resolved [PatternReader] {α : Type} {d : Definition} (limits : Limits)
    (action : α) {rules : List (Rule α)} (h : d.compile limits action = .ok rules) :
    List.Forall₂ (fun row rule => ReferencesResolved row rule.pattern.clauses)
      d.condition.normalForm.disjuncts rules := by
  refine (assemble_ok.mp (Definition.assemble_of_compile h)).imp ?_
  rintro row _ ⟨pattern, hv, rfl⟩
  obtain ⟨ps, hps, hof⟩ := compileVariant_ok.mp hv
  rw [Pattern.clauses_ofClauses? hof]
  exact referencesResolved_of_compileRow hps

def quoteForOrder : Definition where
  name := "quote"
  priority := none
  conditions := [
    .clause ⟨[.target "Order", .tests [
      .property ⟨⟨["least"]⟩, some (.named "l"), none, .none⟩,
      .property ⟨⟨["most"]⟩, some (.named "m"), none, .none⟩]]⟩,
    .clause ⟨[.target "Quote", .tests [
      .property ⟨⟨["ask"]⟩, some (.named "a"), none, .none⟩,
      .property ⟨⟨["bid"]⟩, none, some .lt, .refs [.named "a"]⟩,
      .property ⟨⟨["size"]⟩, none, some .between, .refs [.named "l", .named "m"]⟩]]⟩]

open scoped Regex

theorem quoteForOrder_references_resolved : ∃ rules : List (Rule Unit),
    quoteForOrder.compile .unbounded () = .ok rules ∧
      rules.map (fun r => r.pattern.clauses.map fun p => p.atoms.map Atom.kind) =
        [[[.bind ⟨["least"]⟩, .bind ⟨["most"]⟩],
          [.bind ⟨["ask"]⟩, .selfReference ⟨["bid"]⟩ .lt [⟨["ask"]⟩],
            .reference ⟨["size"]⟩ .between [.named "l", .named "m"]]]] ∧
      List.Forall₂ (fun row rule => ReferencesResolved row rule.pattern.clauses)
        quoteForOrder.condition.normalForm.disjuncts rules :=
  ⟨_, rfl, rfl, compile_references_resolved .unbounded () rfl⟩

end Antecedent
