import Antecedent.Proofs.Pattern.Resolution
import Antecedent.Proofs.Rule.Variants

namespace Antecedent

def Atom.boundPath (a : Atom) : Path := a.kind.path?.getD .root

def Atom.binding (index : Nat) (a : Atom) : Tag × Binding := (a.tag, ⟨index, a.boundPath⟩)

namespace ClausePattern

def tags (p : ClausePattern) : List Tag := (p.head :: p.atoms).map (·.tag)

def bindings (p : ClausePattern) : List (Tag × Binding) :=
  (p.head :: p.atoms).map (Atom.binding p.index)

end ClausePattern

variable [PatternReader] {index : Nat} {template : Template} {s s' : Scope} {site : Site} {a : Atom}
  {sites : List Site} {atoms : List Atom} {kind : AtomKind}

lemma PropertyTest.Makes.path?_eq {t : PropertyTest} (h : Makes index s t kind) :
    kind.path? = some t.path := by
  cases h with
  | bind path tag => rfl
  | literal tag hl => cases hl <;> rfl
  | refs tag _ hr =>
    obtain ⟨_, _, _, ⟨_, rfl⟩ | ⟨_, rfl⟩⟩ := Scope.references_eq_ok.mp hr <;> rfl
  | nested path tag child _ _ => rfl

lemma Site.kindIn_path (h : site.kindIn index s = .ok kind) : kind.path?.getD .root = site.path := by
  cases site with
  | head tag =>
    cases h
    rfl
  | test t =>
    cases t with
    | property t => rw [(PropertyTest.makes_of_kindIn h).path?_eq, Option.getD_some, Site.path]
    | function f =>
      cases h
      rfl

lemma Step.binding (h : Step index template s site a s') :
    s'.bindings = s.bindings ++ [a.binding index] := by
  rw [h.bindings, Atom.binding, Atom.boundPath, Site.kindIn_path h.kind]

lemma Run.bindings (h : Run index template s sites atoms s') :
    s'.bindings = s.bindings ++ atoms.map (Atom.binding index) := by
  induction h with
  | nil s => simp
  | cons hs _ ih => simp [ih, hs.binding]

lemma Run.length (h : Run index template s sites atoms s') : atoms.length = sites.length := by
  induction h with
  | nil s => rfl
  | cons _ _ ih => simp [ih]

lemma Run.kind_at (h : Run index template s sites atoms s') {k : Nat} (ha : atoms[k]? = some a) :
    ∃ site s₁, sites[k]? = some site ∧ site.kindIn index s₁ = .ok a.kind ∧
      s₁.bindings = s.bindings ++ (atoms.take k).map (Atom.binding index) := by
  induction h generalizing k with
  | nil s => simp at ha
  | @cons s s₁ s' site b sites atoms hs hr ih =>
    cases k with
    | zero =>
      obtain rfl : b = a := by simpa using ha
      exact ⟨site, s, rfl, hs.kind, by simp⟩
    | succ k =>
      obtain ⟨site', s₂, hsite, hk, hb⟩ := ih (by simpa using ha)
      exact ⟨site', s₂, by simpa using hsite, hk, by simp [hb, hs.binding]⟩

lemma Clause.resolve_bindings {c : Clause} {p : ClausePattern}
    (h : c.resolve index s = (.ok p, s')) :
    p.index = index ∧ s'.bindings = s.bindings ++ p.bindings := by
  obtain ⟨shape, _, rfl, _, hrun⟩ := Clause.resolve_ok.mp h
  exact ⟨rfl, hrun.bindings⟩

lemma compileRow_at {rule : String} {cs : List Clause} {ps : List ClausePattern}
    (h : compileRow rule index s cs = .ok ps) {k : Nat} {c : Clause} {p : ClausePattern}
    (hc : cs[k]? = some c) (hp : ps[k]? = some p) :
    ∃ s₁ s₂, c.resolve (index + k) s₁ = (.ok p, s₂) ∧
      s₁.bindings = s.bindings ++ (ps.take k).flatMap ClausePattern.bindings := by
  induction cs generalizing index s ps k with
  | nil => simp at hc
  | cons c' cs ih =>
    obtain ⟨q, s', rest, hq, hr, rfl⟩ := compileRow_cons.mp h
    cases k with
    | zero =>
      obtain rfl : c' = c := by simpa using hc
      obtain rfl : q = p := by simpa using hp
      exact ⟨s, s', hq, by simp⟩
    | succ k =>
      obtain ⟨s₁, s₂, hres, hb⟩ := ih hr (by simpa using hc) (by simpa using hp)
      refine ⟨s₁, s₂, by simpa only [Nat.add_right_comm, Nat.add_assoc] using hres, ?_⟩
      simp [hb, (Clause.resolve_bindings hq).2]

end Antecedent
