import Antecedent.Proofs.Pattern.Bindings
import Antecedent.Regex.Reading
import Mathlib.Data.List.Nodup

/-! Clauses resolved one after another in one scope: every head and every atom enters one tag of its
own, and the scope can tell for each tag where it comes from. -/

namespace Antecedent

def resolveRow [PatternReader] : (index : Nat) → List Clause → Scoped (List ClausePattern)
  | _, [] => pure []
  | index, c :: cs => do
    let p ← c.resolve index
    let ps ← resolveRow (index + 1) cs
    pure (p :: ps)

variable {index : Nat} {template : Template} {s s' : Scope} {site : Site} {a : Atom}
  {sites : List Site} {atoms : List Atom} {c : Clause} {cs : List Clause} {p : ClausePattern}
  {ps : List ClausePattern} {tag : Tag} {b : Binding}

namespace Scope

def tags (s : Scope) : List Tag := s.bindings.map Prod.fst

lemma find?_eq_none : s.find? tag = none ↔ tag ∉ s.tags := by
  rw [find?, List.lookup_eq_none_iff]
  simp only [tags, List.mem_map, not_exists, not_and, bne_iff_ne]
  constructor
  · rintro h entry he rfl
    exact h entry he rfl
  · rintro h entry he rfl
    exact h entry he rfl

lemma find?_of_mem (hs : s.tags.Nodup) (hb : (tag, b) ∈ s.bindings) : s.find? tag = some b := by
  obtain ⟨before, after, he⟩ := List.append_of_mem hb
  have hnot : tag ∉ before.map Prod.fst := by
    intro hm
    rw [tags, he, List.map_append, List.map_cons] at hs
    exact (List.nodup_append.mp hs).2.2 tag hm tag List.mem_cons_self rfl
  have hnone : before.lookup tag = none := (find?_eq_none (s := ⟨before, 0⟩)).mpr hnot
  simp [find?, he, List.lookup_append, hnone]

end Scope

lemma ClausePattern.map_fst_bindings (p : ClausePattern) : p.bindings.map Prod.fst = p.tags := by
  simp [bindings, tags, Atom.binding, Function.comp_def]

section Rows

variable [PatternReader]

lemma resolveRow_cons : resolveRow index (c :: cs) s = (.ok ps, s') ↔
    ∃ p s₁ rest, c.resolve index s = (.ok p, s₁) ∧
      resolveRow (index + 1) cs s₁ = (.ok rest, s') ∧ ps = p :: rest := by
  simp only [resolveRow, Scoped.bind_ok, Scoped.pure_ok]
  constructor
  · rintro ⟨p, s₁, hp, rest, _, hr, rfl, rfl⟩
    exact ⟨p, s₁, rest, hp, hr, rfl⟩
  · rintro ⟨p, s₁, rest, hp, hr, rfl⟩
    exact ⟨p, s₁, hp, rest, s', hr, rfl, rfl⟩

lemma compileRow_ok {rule : String} : compileRow rule index s cs = .ok ps ↔
    ∃ s', resolveRow index cs s = (.ok ps, s') := by
  induction cs generalizing index s ps with
  | nil => simp [compileRow, resolveRow, Scoped.pure_ok]
  | cons c cs ih =>
    simp only [compileRow_cons, resolveRow_cons, ih]
    constructor
    · rintro ⟨p, s₁, rest, hp, ⟨s', hr⟩, rfl⟩
      exact ⟨s', p, s₁, rest, hp, hr, rfl⟩
    · rintro ⟨s', p, s₁, rest, hp, hr, rfl⟩
      exact ⟨p, s₁, rest, hp, ⟨s', hr⟩, rfl⟩

lemma Step.nodup_tags (h : Step index template s site a s') (hs : s.tags.Nodup) :
    s'.tags.Nodup := by
  have hnew : a.tag ∉ s.tags := Scope.find?_eq_none.mp h.unbound
  have he : s'.tags = s.tags ++ [a.tag] := by simp [Scope.tags, h.bindings]
  rw [he]
  apply List.nodup_append.mpr
  refine ⟨hs, List.nodup_singleton _, ?_⟩
  rintro t ht u hu rfl
  exact hnew (List.mem_singleton.mp hu ▸ ht)

lemma Run.nodup_tags (h : Run index template s sites atoms s') (hs : s.tags.Nodup) :
    s'.tags.Nodup := by
  induction h with
  | nil s => exact hs
  | cons hstep _ ih => exact ih (hstep.nodup_tags hs)

lemma Clause.resolve_nodup_tags (h : c.resolve index s = (.ok p, s')) (hs : s.tags.Nodup) :
    s'.tags.Nodup := by
  obtain ⟨_, _, _, _, hrun⟩ := Clause.resolve_ok.mp h
  exact hrun.nodup_tags hs

lemma Clause.resolve_head (h : c.resolve index s = (.ok p, s')) : p.head.boundPath = .root := by
  obtain ⟨_, _, _, _, hrun⟩ := Clause.resolve_ok.mp h
  obtain ⟨a, _, _, ha, hstep, _⟩ := run_cons.mp hrun
  obtain ⟨rfl, _⟩ := List.cons.inj ha
  exact Site.kindIn_path hstep.kind

lemma resolveRow_nodup_tags (h : resolveRow index cs s = (.ok ps, s')) (hs : s.tags.Nodup) :
    s'.tags.Nodup := by
  induction cs generalizing index s ps with
  | nil =>
    obtain ⟨_, rfl⟩ := Scoped.pure_ok.mp h
    exact hs
  | cons c cs ih =>
    obtain ⟨p, s₁, rest, hp, hr, _⟩ := resolveRow_cons.mp h
    exact ih hr (Clause.resolve_nodup_tags hp hs)

lemma resolveRow_bindings (h : resolveRow index cs s = (.ok ps, s')) :
    s'.bindings = s.bindings ++ ps.flatMap ClausePattern.bindings := by
  induction cs generalizing index s ps with
  | nil =>
    obtain ⟨rfl, rfl⟩ := Scoped.pure_ok.mp h
    simp
  | cons c cs ih =>
    obtain ⟨p, s₁, rest, hp, hr, rfl⟩ := resolveRow_cons.mp h
    have hfirst := (Clause.resolve_bindings hp).2
    simp [ih hr, hfirst]

lemma resolveRow_at (h : resolveRow index cs s = (.ok ps, s')) {k : Nat} (hp : ps[k]? = some p) :
    p.index = index + k ∧ p.head.boundPath = .root := by
  induction cs generalizing index s ps k with
  | nil =>
    obtain ⟨rfl, _⟩ := Scoped.pure_ok.mp h
    simp at hp
  | cons c cs ih =>
    obtain ⟨q, s₁, rest, hq, hr, rfl⟩ := resolveRow_cons.mp h
    cases k with
    | zero =>
      obtain rfl : q = p := by simpa using hp
      exact ⟨(Clause.resolve_bindings hq).1, Clause.resolve_head hq⟩
    | succ k =>
      have hrest := ih hr (by simpa using hp)
      exact ⟨by omega, hrest.2⟩

lemma resolveRow_tags (h : resolveRow index cs .empty = (.ok ps, s)) :
    s.tags = ps.flatMap ClausePattern.tags := by
  have hb : s.bindings = ps.flatMap ClausePattern.bindings := resolveRow_bindings h
  simp only [Scope.tags, hb, List.map_flatMap, ClausePattern.map_fst_bindings]

end Rows

theorem resolveRow_registers_atoms [PatternReader] {cs : List Clause} {ps : List ClausePattern}
    {s : Scope} (h : resolveRow 0 cs .empty = (.ok ps, s)) :
    (∀ rule, compileRow rule 0 .empty cs = .ok ps) ∧
      (ps.flatMap ClausePattern.tags).Nodup ∧
      s.size = (ps.flatMap fun p => p.head :: p.atoms).length ∧
      ∀ (i : Nat) (p : ClausePattern), ps[i]? = some p →
        s.find? p.head.tag = some ⟨i, .root⟩ ∧
          ∀ a ∈ p.atoms, s.find? a.tag = some ⟨i, a.kind.path?.getD .root⟩ := by
  have hb : s.bindings = ps.flatMap ClausePattern.bindings := resolveRow_bindings h
  have hnodup : s.tags.Nodup := resolveRow_nodup_tags h List.nodup_nil
  refine ⟨fun rule => compileRow_ok.mpr ⟨s, h⟩, resolveRow_tags h ▸ hnodup, ?_, fun i p hp => ?_⟩
  · simp [Scope.size, hb, List.length_flatMap, ClausePattern.bindings]
  · obtain ⟨hi, hhead⟩ := resolveRow_at h hp
    have hentry : ∀ a ∈ p.head :: p.atoms, s.find? a.tag = some ⟨i, a.boundPath⟩ := by
      intro a ha
      apply Scope.find?_of_mem hnodup
      rw [hb, List.mem_flatMap]
      refine ⟨p, List.mem_of_getElem? hp, List.mem_map.mpr ⟨a, ha, ?_⟩⟩
      rw [Atom.binding, hi, Nat.zero_add]
    refine ⟨?_, fun a ha => hentry a (List.mem_cons_of_mem _ ha)⟩
    rw [hentry p.head List.mem_cons_self, hhead]

def numberedByHand : List Clause := [
  -- The number 1 is one that the counter has to pass over.
  ⟨[.target "Order", .tag (.generated 1), .tests [
    .property ⟨⟨["price"]⟩, some (.named "p"), none, .none⟩,
    .property ⟨⟨["size"]⟩, none, some .gt, .value (.int 0)⟩]]⟩,
  ⟨[.target "Quote", .tests [
    .property ⟨⟨["ask"]⟩, none, some .lt, .nested ⟨⟨["bid"]⟩, none, none, .none⟩⟩,
    .property ⟨⟨["price"]⟩, none, some .eq, .refs [.named "p"]⟩]]⟩]

open scoped Regex

theorem numberedByHand_registers_atoms : ∃ ps s,
    resolveRow 0 numberedByHand .empty = (.ok ps, s) ∧
      ps.flatMap ClausePattern.tags = [.generated 1, .named "p", .generated 0, .generated 2,
        .generated 3, .generated 4, .generated 5] ∧
      (∀ rule, compileRow rule 0 .empty numberedByHand = .ok ps) ∧
      (ps.flatMap ClausePattern.tags).Nodup ∧
      s.size = (ps.flatMap fun p => p.head :: p.atoms).length ∧
      ∀ (i : Nat) (p : ClausePattern), ps[i]? = some p →
        s.find? p.head.tag = some ⟨i, .root⟩ ∧
          ∀ a ∈ p.atoms, s.find? a.tag = some ⟨i, a.kind.path?.getD .root⟩ := by
  have h : resolveRow 0 numberedByHand .empty = (.ok _, _) := rfl
  exact ⟨_, _, h, rfl, resolveRow_registers_atoms h⟩

end Antecedent
