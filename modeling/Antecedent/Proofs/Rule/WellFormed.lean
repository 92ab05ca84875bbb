import Antecedent.Proofs.Pattern.Admission
import Antecedent.Proofs.Rule.Variants
import Antecedent.Regex.Reading
import Mathlib.Data.List.Induction
import Mathlib.Data.List.Nodup

/-! Rows of clauses that compile, told from what is written in them. -/

namespace Antecedent

def Admits [PatternReader] (before places : List Place) : Prop :=
  ∀ first p rest, places = first ++ p :: rest → Fits (before ++ first) p

def Clause.InOrder (c : Clause) : Prop :=
  ∃ modifiers target tag block, .existing ∉ modifiers ∧
    c.tokens = inOrder modifiers target tag block

def Clause.places (index : Nat) (c : Clause) : List Place := c.sites.map (Place.mk index)

def placesFrom : (index : Nat) → List Clause → List Place
  | _, [] => []
  | index, c :: cs => c.places index ++ placesFrom (index + 1) cs

structure WellFormed [PatternReader] (clauses : List Clause) : Prop where
  inOrder : ∀ c ∈ clauses, c.InOrder
  legal : ∀ c ∈ clauses, ∀ t, .property t ∈ c.flatTests → t.Legal
  distinct : ((placesFrom 0 clauses).filterMap (·.site.tag)).Nodup
  earlier : ∀ before p after, placesFrom 0 clauses = before ++ p :: after →
    ∀ tag ∈ p.site.refs, ∃ i, WrittenIn before i tag
  unmixed : ∀ before p after, placesFrom 0 clauses = before ++ p :: after →
    ∀ own ∈ p.site.refs, ∀ other ∈ p.site.refs, ∀ i,
      WrittenIn before p.clause own → WrittenIn before i other → i = p.clause

variable {index : Nat} {template : Template} {s s' : Scope} {sites : List Site} {atoms : List Atom}
  {before places : List Place} {rule : String} {c : Clause} {cs clauses : List Clause}

lemma untagged_le (more : List Place) : untagged before ≤ untagged (before ++ more) := by
  simp [untagged]

lemma Clause.exists_shape : (∃ shape, c.shape = .ok shape) ↔ c.InOrder := by
  constructor
  · rintro ⟨shape, h⟩
    obtain ⟨modifiers, block, hm, ht, _⟩ := Shape.inOrder_of_ofTokens h
    exact ⟨modifiers, _, _, block, hm, ht⟩
  · rintro ⟨modifiers, target, tag, block, hm, ht⟩
    exact ⟨_, by rw [Clause.shape, ht, Shape.ofTokens_inOrder hm]⟩

lemma map_site_placesFrom (index : Nat) (cs : List Clause) :
    (placesFrom index cs).map Place.site = cs.flatMap Clause.sites := by
  induction cs generalizing index with
  | nil => rfl
  | cons c cs ih => simp [placesFrom, Clause.places, ih, Function.comp_def]

lemma forall_site {P : Site → Prop} :
    (∀ p ∈ placesFrom index cs, P p.site) ↔ ∀ c ∈ cs, ∀ site ∈ c.sites, P site := by
  rw [← List.forall_mem_map, map_site_placesFrom]
  simp only [List.mem_flatMap, forall_exists_index, and_imp]
  exact ⟨fun h c hc site hs => h site c hc hs, fun h site c hc hs => h c hc site hs⟩

lemma mem_writtenTags {tag : Tag} :
    tag ∈ places.filterMap (·.site.tag) ↔ ∃ i, WrittenIn places i tag := by
  simp only [List.mem_filterMap, WrittenIn]
  constructor
  · rintro ⟨p, hp, ht⟩
    exact ⟨p.clause, p, hp, rfl, ht⟩
  · rintro ⟨_, p, hp, _, ht⟩
    exact ⟨p, hp, ht⟩

lemma nodup_writtenTags : (places.filterMap (·.site.tag)).Nodup ↔
    ∀ first p rest, places = first ++ p :: rest →
      ∀ tag ∈ p.site.tag, ∀ i, ¬ WrittenIn first i tag := by
  constructor
  · rintro h first p rest rfl tag ht i hw
    rw [List.filterMap_append, List.filterMap_cons, Option.mem_def.mp ht] at h
    have hmem := mem_writtenTags.mpr ⟨i, hw⟩
    exact (List.nodup_append.mp h).2.2 tag hmem tag List.mem_cons_self rfl
  · intro h
    -- Freshness looks back, so the list is taken apart from its end.
    induction places using List.reverseRecOn with
    | nil => exact List.nodup_nil
    | append_singleton places p ih =>
      have hbefore := ih fun first q rest he => h first q (rest ++ [p]) (by simp [he])
      have hfresh := h places p [] rfl
      rw [List.filterMap_append]
      cases ht : p.site.tag with
      | none => simpa [ht] using hbefore
      | some tag =>
        have hnew : tag ∉ places.filterMap (·.site.tag) := by
          rw [mem_writtenTags]
          rintro ⟨i, hi⟩
          exact hfresh tag ht i hi
        rw [List.filterMap_cons, ht, List.filterMap_nil]
        refine List.nodup_append.mpr ⟨hbefore, List.nodup_singleton tag, ?_⟩
        rintro u hu v hv rfl
        exact hnew (List.mem_singleton.mp hv ▸ hu)

section Rows

variable [PatternReader]

lemma admits_nil : Admits before [] := by
  intro first p rest h
  simp at h

lemma admits_cons {p : Place} :
    Admits before (p :: places) ↔ Fits before p ∧ Admits (before ++ [p]) places := by
  constructor
  · intro h
    refine ⟨by simpa using h [] p places rfl, fun first q rest he => ?_⟩
    have hq := h (p :: first) q rest (by rw [he, List.cons_append])
    rwa [List.append_cons] at hq
  · rintro ⟨hp, h⟩ first q rest he
    cases first with
    | nil =>
      obtain ⟨rfl, rfl⟩ := List.cons.inj he
      simpa using hp
    | cons p' first =>
      obtain ⟨rfl, hrest⟩ := List.cons.inj he
      rw [List.append_cons]
      exact h first q rest hrest

lemma admits_append {more : List Place} :
    Admits before (places ++ more) ↔ Admits before places ∧ Admits (before ++ places) more := by
  induction places generalizing before with
  | nil => simp [admits_nil]
  | cons p places ih => rw [List.cons_append, admits_cons, admits_cons, ih, and_assoc,
      ← List.append_cons]

namespace Tracks

lemma run (h : Tracks s before) (hn : ∀ site ∈ sites, ∀ tag ∈ site.tag, tag.isGenerated = false)
    (hr : Run index template s sites atoms s') :
    Tracks s' (before ++ sites.map (Place.mk index)) := by
  induction hr generalizing before with
  | nil s => simpa using h
  | @cons s s₁ s' site a sites atoms hs hr ih =>
    obtain ⟨hsite, hn⟩ := List.forall_mem_cons.mp hn
    rw [List.map_cons, List.append_cons]
    exact ih (h.step hsite hs) hn

lemma exists_run (template : Template) (h : Tracks s before)
    (hn : ∀ site ∈ sites, site.Named)
    (hroom : untagged (before ++ sites.map (Place.mk index)) < UInt32.size) :
    (∃ atoms s', Run index template s sites atoms s') ↔
      Admits before (sites.map (Place.mk index)) := by
  induction sites generalizing s before with
  | nil => exact ⟨fun _ => admits_nil, fun _ => ⟨[], s, .nil s⟩⟩
  | cons site sites ih =>
    obtain ⟨hsite, hn⟩ := List.forall_mem_cons.mp hn
    rw [List.map_cons, List.append_cons] at hroom
    have hroom' := Nat.lt_of_le_of_lt (untagged_le _) hroom
    rw [List.map_cons, admits_cons, ← h.exists_step template hsite hroom']
    constructor
    · rintro ⟨_, s', hr⟩
      obtain ⟨a, s₁, more, rfl, hs, hr⟩ := run_cons.mp hr
      exact ⟨⟨a, s₁, hs⟩, (ih (h.step hsite.1 hs) hn hroom).mp ⟨more, s', hr⟩⟩
    · rintro ⟨⟨a, s₁, hs⟩, hrest⟩
      obtain ⟨more, s', hr⟩ := (ih (h.step hsite.1 hs) hn hroom).mpr hrest
      exact ⟨a :: more, s', .cons hs hr⟩

end Tracks

namespace Tracks

lemma resolve (h : Tracks s before)
    (hn : ∀ site ∈ c.sites, ∀ tag ∈ site.tag, tag.isGenerated = false) {p : ClausePattern}
    (hp : c.resolve index s = (.ok p, s')) : Tracks s' (before ++ c.places index) := by
  obtain ⟨_, _, _, _, hr⟩ := Clause.resolve_ok.mp hp
  exact h.run hn hr

lemma exists_resolve (h : Tracks s before) (hn : ∀ site ∈ c.sites, site.Named)
    (hroom : untagged (before ++ c.places index) < UInt32.size) :
    (∃ p s', c.resolve index s = (.ok p, s')) ↔
      c.InOrder ∧ Admits before (c.places index) := by
  rw [← Clause.exists_shape]
  constructor
  · rintro ⟨p, s', hp⟩
    obtain ⟨shape, hshape, _, _, hr⟩ := Clause.resolve_ok.mp hp
    exact ⟨⟨shape, hshape⟩, (h.exists_run _ hn hroom).mp ⟨_, s', hr⟩⟩
  · rintro ⟨⟨shape, hshape⟩, ha⟩
    obtain ⟨_, s', hr⟩ := (h.exists_run shape.template hn hroom).mpr ha
    obtain ⟨a, _, more, rfl, _, _⟩ := run_cons.mp hr
    exact ⟨⟨index, shape.kind, a, more⟩, s',
      Clause.resolve_ok.mpr ⟨shape, hshape, rfl, rfl, hr⟩⟩

end Tracks

lemma Tracks.exists_compileRow (h : Tracks s before)
    (hn : ∀ c ∈ cs, ∀ site ∈ c.sites, site.Named)
    (hroom : untagged (before ++ placesFrom index cs) < UInt32.size) :
    (∃ ps, compileRow rule index s cs = .ok ps) ↔
      (∀ c ∈ cs, c.InOrder) ∧ Admits before (placesFrom index cs) := by
  induction cs generalizing index s before with
  | nil => exact ⟨fun _ => ⟨by simp, admits_nil⟩, fun _ => ⟨[], rfl⟩⟩
  | cons c cs ih =>
    obtain ⟨hc, hcs⟩ := List.forall_mem_cons.mp hn
    rw [placesFrom, ← List.append_assoc] at hroom
    have hroom' := Nat.lt_of_le_of_lt (untagged_le _) hroom
    have hwritten : ∀ site ∈ c.sites, ∀ tag ∈ site.tag, tag.isGenerated = false :=
      fun site hsite => (hc site hsite).1
    rw [List.forall_mem_cons, placesFrom, admits_append]
    constructor
    · rintro ⟨_, hps⟩
      obtain ⟨p, s₁, rest, hp, hr, rfl⟩ := compileRow_cons.mp hps
      obtain ⟨ho, ha⟩ := (h.exists_resolve hc hroom').mp ⟨p, s₁, hp⟩
      obtain ⟨ho', ha'⟩ := (ih (h.resolve hwritten hp) hcs hroom).mp ⟨rest, hr⟩
      exact ⟨⟨ho, ho'⟩, ha, ha'⟩
    · rintro ⟨⟨ho, ho'⟩, ha, ha'⟩
      obtain ⟨p, s₁, hp⟩ := (h.exists_resolve hc hroom').mpr ⟨ho, ha⟩
      obtain ⟨rest, hr⟩ := (ih (h.resolve hwritten hp) hcs hroom).mpr ⟨ho', ha'⟩
      exact ⟨p :: rest, compileRow_cons.mpr ⟨p, s₁, rest, hp, hr, rfl⟩⟩

lemma legal_iff : (∀ c ∈ clauses, ∀ t, .property t ∈ c.flatTests → t.Legal) ↔
    ∀ p ∈ placesFrom 0 clauses, p.site.Legal := by
  rw [forall_site (P := Site.Legal)]
  refine forall₂_congr fun c _ => ?_
  constructor
  · rintro h (tag | t | f) hs
    · trivial
    · exact h t (by simpa [Clause.sites] using hs)
    · trivial
  · intro h t ht
    exact h (.test (.property t)) (by simpa [Clause.sites] using ht)

lemma wellFormed_iff : WellFormed clauses ↔
    (∀ c ∈ clauses, c.InOrder) ∧ Admits [] (placesFrom 0 clauses) := by
  constructor
  · rintro ⟨ho, hl, hd, he, hu⟩
    refine ⟨ho, fun first p rest hs => ?_⟩
    have hp : p ∈ placesFrom 0 clauses := by simp [hs]
    exact ⟨legal_iff.mp hl p hp, nodup_writtenTags.mp hd first p rest hs, he first p rest hs,
      hu first p rest hs⟩
  · rintro ⟨ho, ha⟩
    refine ⟨ho, legal_iff.mpr fun p hp => ?_, nodup_writtenTags.mpr fun first p rest hs => ?_,
      fun first p rest hs => (ha first p rest hs).earlier,
      fun first p rest hs => (ha first p rest hs).unmixed⟩
    · obtain ⟨first, rest, hs⟩ := List.append_of_mem hp
      exact (ha first p rest hs).legal
    · exact (ha first p rest hs).fresh

lemma exists_assemble {α : Type} {priority : Int32} {action : α} (hne : clauses ≠ []) :
    (∃ rules, assemble rule priority action (NormalForm.conjunction clauses).disjuncts = .ok rules)
      ↔ ∃ ps, compileRow rule 0 .empty clauses = .ok ps := by
  simp only [NormalForm.disjuncts]
  constructor
  · rintro ⟨_, hr⟩
    obtain ⟨pattern, hv, _⟩ := assemble_single_ok.mp hr
    obtain ⟨ps, hps, _⟩ := compileVariant_ok.mp hv
    exact ⟨ps, hps⟩
  · rintro ⟨ps, hps⟩
    obtain ⟨pattern, hv, _⟩ := compileVariant_of_row hne hps
    exact ⟨_, assemble_single_ok.mpr ⟨pattern, hv, rfl⟩⟩

end Rows

/-- A row whose tags all have names compiles if and only if it is well formed, as long as the numbers
for the places without a tag do not run out. -/
theorem assemble_succeeds_iff_wellFormed [PatternReader] {α : Type} (name : String)
    (priority : Int32) (action : α) {clauses : List Clause} (hne : clauses ≠ [])
    (hnamed : ∀ c ∈ clauses, ∀ site ∈ c.sites, site.Named)
    (hroom : untagged (placesFrom 0 clauses) < UInt32.size) :
    (∃ rules, assemble name priority action (NormalForm.conjunction clauses).disjuncts =
      .ok rules) ↔ WellFormed clauses := by
  rw [exists_assemble hne, wellFormed_iff]
  exact Tracks.empty.exists_compileRow hnamed (by simpa using hroom)

def orderAndQuote : List Clause := [
  ⟨[.modifier .subtyped, .target "Order", .tag (.named "o"), .tests [
    .property ⟨⟨["price"]⟩, some (.named "p"), none, .none⟩,
    .property ⟨⟨["note"]⟩, none, some .matching, .pattern "urgent|late"⟩]]⟩,
  ⟨[.target "Quote", .tests [
    .property ⟨⟨["ask"]⟩, none, some .gt,
      .nested ⟨⟨["bid"]⟩, some (.named "b"), some .lte, .refs [.named "p"]⟩⟩,
    .property ⟨⟨["mid"]⟩, none, some .gte, .refs [.named "b"]⟩]]⟩]

open scoped Regex

theorem orderAndQuote_wellFormed :
    orderAndQuote ≠ [] ∧ (∀ c ∈ orderAndQuote, ∀ site ∈ c.sites, site.Named) ∧
      untagged (placesFrom 0 orderAndQuote) = 4 ∧ WellFormed orderAndQuote := by
  have hne : orderAndQuote ≠ [] := List.cons_ne_nil _ _
  have hnamed : ∀ c ∈ orderAndQuote, ∀ site ∈ c.sites, site.Named := by decide
  have hroom : untagged (placesFrom 0 orderAndQuote) = 4 := by decide
  refine ⟨hne, hnamed, hroom, ?_⟩
  have hlt : untagged (placesFrom 0 orderAndQuote) < UInt32.size := by
    rw [hroom]
    decide
  exact (assemble_succeeds_iff_wellFormed "quote" 0 () hne hnamed hlt).mp ⟨_, rfl⟩

end Antecedent
