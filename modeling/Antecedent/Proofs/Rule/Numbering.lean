import Antecedent.Proofs.Condition.Leaves
import Antecedent.Proofs.Pattern.Bindings
import Antecedent.Proofs.Rule.Budget
import Antecedent.Proofs.Rule.WellFormed
import Antecedent.Regex.Reading

/-! The numbers of the tags that nobody wrote: each variant counts from zero and leaves none out. -/

namespace Antecedent

def suppliedTags (sites : List Site) (atoms : List Atom) : List Tag :=
  ((sites.zip atoms).filter (·.1.tag.isNone)).map (·.2.tag)

def numbersFrom (first count : Nat) : List Tag :=
  (List.range' first count).map fun n => .generated (.ofNat n)

variable {index : Nat} {template : Template} {s s' : Scope} {sites : List Site} {atoms : List Atom}
  {before : List Place} {rule : String} {cs : List Clause} {ps : List ClausePattern}

lemma suppliedTags_append {sites' : List Site} {atoms' : List Atom}
    (h : sites.length = atoms.length) :
    suppliedTags (sites ++ sites') (atoms ++ atoms') =
      suppliedTags sites atoms ++ suppliedTags sites' atoms' := by
  simp [suppliedTags, List.zip_append h]

lemma numbersFrom_append (first count more : Nat) :
    numbersFrom first count ++ numbersFrom (first + count) more =
      numbersFrom first (count + more) := by
  rw [numbersFrom, numbersFrom, numbersFrom, ← List.map_append, List.range'_append_1]

lemma untagged_append (places more : List Place) :
    untagged (places ++ more) = untagged places + untagged more := List.countP_append

namespace Tracks

lemma step_supplied [PatternReader] {site : Site} {a : Atom} (h : Tracks s before)
    (hs : Step index template s site a s') :
    suppliedTags [site] [a] = numbersFrom (untagged before) (untagged [⟨index, site⟩]) := by
  obtain ⟨ht, _⟩ | ⟨ht, hgen, _⟩ := h.tag_cases hs
  · simp [suppliedTags, untagged, numbersFrom, ht]
  · have hone : untagged [⟨index, site⟩] = 1 := by simp [untagged, ht]
    have hnext : .ofNat (untagged before) = s.next := by rw [← h.next, UInt32.ofNat_toNat]
    rw [hone]
    simp [suppliedTags, numbersFrom, ht, hgen, hnext]

lemma run_supplied [PatternReader] (h : Tracks s before)
    (hn : ∀ site ∈ sites, ∀ tag ∈ site.tag, tag.isGenerated = false)
    (hr : Run index template s sites atoms s') :
    suppliedTags sites atoms =
      numbersFrom (untagged before) (untagged (sites.map (Place.mk index))) := by
  induction hr generalizing before with
  | nil s => rfl
  | @cons s s₁ s' site a sites atoms hs hr ih =>
    -- The counter has moved on by what this place took, which is where the rest begins.
    obtain ⟨hsite, hn⟩ := List.forall_mem_cons.mp hn
    have hrest := ih (h.step hsite hs) hn
    rw [untagged_append] at hrest
    rw [← List.singleton_append, ← List.singleton_append (l := atoms), suppliedTags_append rfl,
      h.step_supplied hs, hrest, numbersFrom_append, ← untagged_append]
    rfl

lemma untagged_lt (h : Tracks s before) : untagged before < UInt32.size := by
  rw [← h.next]
  exact s.next.toNat_lt

end Tracks

def ClausePattern.allAtoms (p : ClausePattern) : List Atom := p.head :: p.atoms

structure NumberedFrom (first : Nat) (row : List Clause) (ps : List ClausePattern) : Prop where
  aligned : List.Forall₂ (fun c p => (Clause.sites c).length = p.allAtoms.length) row ps
  numbered : ∃ count, first + count < UInt32.size ∧
    suppliedTags (row.flatMap Clause.sites) (ps.flatMap ClausePattern.allAtoms) =
      numbersFrom first count

lemma Tracks.compileRow_supplied [PatternReader] (h : Tracks s before)
    (hn : ∀ c ∈ cs, ∀ site ∈ c.sites, ∀ tag ∈ site.tag, tag.isGenerated = false)
    (hr : compileRow rule index s cs = .ok ps) : NumberedFrom (untagged before) cs ps := by
  induction cs generalizing index s before ps with
  | nil =>
    cases hr
    exact ⟨.nil, 0, h.untagged_lt, rfl⟩
  | cons c cs ih =>
    obtain ⟨hc, hcs⟩ := List.forall_mem_cons.mp hn
    obtain ⟨p, s₁, rest, hp, hrest, rfl⟩ := compileRow_cons.mp hr
    obtain ⟨_, _, _, _, hrun⟩ := Clause.resolve_ok.mp hp
    have hlength : c.sites.length = p.allAtoms.length := hrun.length.symm
    obtain ⟨haligned, count, hlt, hnumbered⟩ := ih (h.resolve hc hp) hcs hrest
    rw [untagged_append] at hlt hnumbered
    refine ⟨.cons hlength haligned, untagged (c.places index) + count, by omega, ?_⟩
    rw [List.flatMap_cons, List.flatMap_cons, suppliedTags_append hlength, hnumbered,
      ClausePattern.allAtoms, h.run_supplied hc hrun, Clause.places, numbersFrom_append]

theorem compile_numbers_untagged [PatternReader] {α : Type} {d : Definition} (limits : Limits)
    (action : α) {rules : List (Rule α)} (h : d.compile limits action = .ok rules)
    (hnamed : ∀ c ∈ d.condition.leaves, ∀ site ∈ c.sites, ∀ tag ∈ site.tag,
      tag.isGenerated = false) :
    List.Forall₂ (fun row r => NumberedFrom 0 row r.pattern.clauses) d.variants rules := by
  have hrows : ∀ row ∈ d.variants, ∀ c ∈ row, ∀ site ∈ c.sites, ∀ tag ∈ site.tag,
      tag.isGenerated = false := by
    intro row hrow c hc
    exact hnamed c (Condition.mem_leaves_of_row hrow hc)
  have hrules := assemble_ok.mp (Definition.assemble_of_compile h)
  apply (List.forall₂_and_left _ _ |>.mpr ⟨hrows, hrules⟩).imp
  rintro row _ ⟨hrow, pattern, hv, rfl⟩
  obtain ⟨ps, hps, hof⟩ := compileVariant_ok.mp hv
  rw [Pattern.clauses_ofClauses? hof]
  exact Tracks.empty.compileRow_supplied hrow hps

def watched : Definition where
  name := "watched"
  priority := none
  conditions := [
    .clause ⟨[.target "Order", .tag (.named "o"), .tests [
      .property ⟨⟨["price"]⟩, some (.named "p"), none, .none⟩,
      .property ⟨⟨["size"]⟩, none, some .gt, .nested ⟨⟨["least"]⟩, none, none, .none⟩⟩,
      .function ⟨[], ⟨0, fun _ _ => true⟩⟩]]⟩,
    .group .or [
      .clause ⟨[.target "Trade", .tag (.named "t")]⟩,
      .clause ⟨[.target "Quote", .tests [
        .property ⟨⟨["ask"]⟩, none, some .lt, .refs [.named "p"]⟩]]⟩]]

open scoped Regex

theorem watched_numbers_untagged : ∃ rules : List (Rule Unit),
    watched.compile .unbounded () = .ok rules ∧
      rules.map (fun r => r.pattern.clauses.flatMap ClausePattern.tags) =
        [[.named "o", .named "p", .generated 0, .generated 1, .generated 2, .named "t"],
          [.named "o", .named "p", .generated 0, .generated 1, .generated 2, .generated 3,
            .generated 4]] ∧
      List.Forall₂ (fun row r => NumberedFrom 0 row r.pattern.clauses) watched.variants rules := by
  have hrules : watched.compile .unbounded () = .ok _ := rfl
  have hnamed : ∀ c ∈ watched.condition.leaves, ∀ site ∈ c.sites, ∀ tag ∈ site.tag,
      tag.isGenerated = false := by decide
  exact ⟨_, hrules, rfl, compile_numbers_untagged .unbounded () hrules hnamed⟩

end Antecedent
