import Antecedent.Proofs.Condition.Leaves
import Antecedent.Proofs.Rule.WrittenOut
import Antecedent.Proofs.Source.Precedence
import Antecedent.Regex.Reading

/-! Definitions written in normal form: what is read back has another condition, but it compiles to
the same rules. -/

namespace Antecedent

namespace Condition

variable {k : Connective} {t : Condition} {ts : List Condition} {row : List Clause}
  {rows : List (List Clause)}

lemma disjuncts_grouped (k : Connective) (t : Condition) (ts : List Condition) :
    (Source.grouped k t ts).normalForm.disjuncts = (group k (t :: ts)).normalForm.disjuncts := by
  cases ts with
  | nil => cases k <;> simp [Source.grouped]
  | cons u us => rfl

lemma not_hasEmptyGroup_grouped (h : ∀ u ∈ t :: ts, ¬ u.HasEmptyGroup) :
    ¬ (Source.grouped k t ts).HasEmptyGroup := by
  cases ts with
  | nil => exact h t List.mem_cons_self
  | cons u us => exact not_hasEmptyGroup_group.mpr ⟨List.cons_ne_nil _ _, h⟩

def ofRow : List Clause → Condition
  | [] => .group .and []
  | c :: cs => Source.grouped .and (.clause c) (cs.map .clause)

lemma disjuncts_ofRow (row : List Clause) : (ofRow row).normalForm.disjuncts = [row] := by
  cases row with
  | nil => exact disjuncts_and_nil
  | cons c cs =>
    rw [ofRow, disjuncts_grouped]
    exact disjuncts_clauses (c :: cs)

lemma disjuncts_ofRows (rows : List (List Clause)) :
    (group .or (rows.map ofRow)).normalForm.disjuncts = rows := by
  induction rows with
  | nil => simp
  | cons row rows ih => simp [disjuncts_ofRow, ih]

lemma not_hasEmptyGroup_ofRow (h : row ≠ []) : ¬ (ofRow row).HasEmptyGroup := by
  obtain ⟨c, cs, rfl⟩ := List.exists_cons_of_ne_nil h
  apply not_hasEmptyGroup_grouped
  intro u hu
  rw [← List.map_cons (f := clause)] at hu
  obtain ⟨_, _, rfl⟩ := List.mem_map.mp hu
  exact not_hasEmptyGroup_clause _

lemma exists_row_factor (h : RowOf Clause.Printable row) :
    ∃ f : Factor, f.render = NormalForm.renderRow row ∧ f.tree = ofRow row := by
  obtain ⟨hne, hprintable⟩ := h
  obtain ⟨c, cs, rfl⟩ := List.exists_cons_of_ne_nil hne
  have hmembers : ∀ t ∈ clause c :: cs.map clause, ∃ f, t.WrittenAs f := by
    intro t ht
    rw [← List.map_cons (f := clause)] at ht
    obtain ⟨d, hd, rfl⟩ := List.mem_map.mp ht
    exact (Built.clause (hprintable d hd)).exists_factor
  obtain ⟨e, hrender, htree⟩ := exists_expression .and hmembers
  -- Even a single clause is written in parentheses.
  refine ⟨.parens e, ?_, ?_⟩
  · have hclauses : renderList (clause c :: cs.map clause) = (c :: cs).map Clause.render := by
      rw [renderList_eq, ← List.map_cons (f := clause), List.map_map]
      apply List.map_congr_left
      intro d _
      simp [render]
    rw [hrender, render, hclauses]
    rfl
  · rw [Phrase.tree, htree]
    rfl

lemma exists_row_factors (h : ∀ row ∈ rows, RowOf Clause.Printable row) : ∃ fs : List Factor,
    fs.map Phrase.render = rows.map NormalForm.renderRow ∧ fs.map Phrase.tree = rows.map ofRow := by
  induction rows with
  | nil => exact ⟨[], rfl, rfl⟩
  | cons row rows ih =>
    obtain ⟨hrow, hrows⟩ := List.forall_mem_cons.mp h
    obtain ⟨f, hrender, htree⟩ := exists_row_factor hrow
    obtain ⟨fs, hrenders, htrees⟩ := ih hrows
    exact ⟨f :: fs, by simp [hrender, hrenders], by simp [htree, htrees]⟩

lemma exists_rows_expression (hne : rows ≠ []) (h : ∀ row ∈ rows, RowOf Clause.Printable row) :
    ∃ e : Expression, e.render = " OR ".intercalate (rows.map NormalForm.renderRow) ∧
      e.tree.normalForm.disjuncts = rows ∧ ¬ e.tree.HasEmptyGroup := by
  obtain ⟨row, rows, rfl⟩ := List.exists_cons_of_ne_nil hne
  obtain ⟨fs, hrenders, htrees⟩ := exists_row_factors h
  obtain ⟨f, fs, rfl, htree, htrees⟩ := List.map_eq_cons_iff.mp htrees
  refine ⟨.joining .or f fs, ?_, ?_, ?_⟩
  · rw [Phrase.render_joining, hrenders]
    rfl
  · rw [Phrase.tree_joining, disjuncts_grouped, htree, htrees]
    exact disjuncts_ofRows (row :: rows)
  · rw [Phrase.tree_joining, htree, htrees]
    apply not_hasEmptyGroup_grouped
    intro u hu
    rw [← List.map_cons (f := ofRow)] at hu
    obtain ⟨r, hr, rfl⟩ := List.mem_map.mp hu
    exact not_hasEmptyGroup_ofRow (h r hr).1

lemma disjuncts_topConditions (t : Condition) :
    (group .and (Source.topConditions t)).normalForm.disjuncts = t.normalForm.disjuncts := by
  cases t with
  | clause c => simp [Source.topConditions]
  | group k members =>
    cases k with
    | and => rfl
    | or => simp [Source.topConditions]

lemma not_hasEmptyGroup_topConditions (h : ¬ t.HasEmptyGroup) :
    ¬ (group .and (Source.topConditions t)).HasEmptyGroup := by
  have hsingle : ¬ (group .and [t]).HasEmptyGroup := by
    apply not_hasEmptyGroup_group.mpr
    simpa using h
  cases t with
  | clause c => exact hsingle
  | group k members =>
    cases k with
    | and => exact h
    | or => exact hsingle

end Condition

namespace Definition

variable {α : Type} {d d' : Definition} {limits : Limits} {action : α}

def renderNormal (d : Definition) : String :=
  "rule " ++ d.name ++
    (match d.priority with
      | some p => " (priority " ++ toString p.toInt ++ ")"
      | none => "") ++
    ": " ++ d.condition.normalForm.render

lemma toList_renderNormal (d : Definition) : d.renderNormal.toList =
    "rule ".toList ++ (d.name.toList ++ (Source.priorityText d.priority ++
      ':' :: ' ' :: d.condition.normalForm.render.toList)) := by
  cases hp : d.priority <;> simp [renderNormal, hp, Source.priorityText]

lemma compile_congr [PatternReader] (hname : d'.name = d.name)
    (hpriority : d'.priority = d.priority) (hvariants : d'.variants = d.variants)
    (hfull : ¬ d.HasEmptyGroup) (hfull' : ¬ d'.HasEmptyGroup) :
    d'.compile limits action = d.compile limits action := by
  rw [compile_of_variants hfull, compile_of_variants hfull', hname, hvariants, effectivePriority,
    effectivePriority, hpriority]

end Definition

lemma Source.parse_body {name text : String} {p : Option Int32} {e : Expression}
    (hname : isIdentifier name = true) (htext : text.toList = "rule ".toList ++
      (name.toList ++ (priorityText p ++ ':' :: ' ' :: e.render.toList))) :
    parse text = .ok [⟨name, p, topConditions e.tree⟩] := by
  obtain ⟨t, ht, hok⟩ := expression_reads e phraseEnds_nil
  obtain rfl : t = [] := List.eq_nil_of_length_eq_zero (Nat.le_zero.mp ht.le)
  rw [List.append_nil] at hok
  apply parse_of_definitions
  apply definitions_single
  rw [htext]
  exact definition_body hname hok

theorem compile_renderNormal [PatternReader] {d : Definition} (hname : isIdentifier d.name = true)
    (hclauses : ∀ c ∈ d.condition.leaves, c.Printable) (hfull : ¬ d.HasEmptyGroup) :
    ∃ d', Source.parse d.renderNormal = .ok [d'] ∧
      ∀ {α : Type} (limits : Limits) (action : α),
        d'.compile limits action = d.compile limits action := by
  have hrows : ∀ row ∈ d.variants, Condition.RowOf Clause.Printable row := by
    intro row hrow
    refine ⟨Condition.row_ne_nil (Definition.not_hasEmptyGroup_condition.mpr hfull) row hrow, ?_⟩
    intro c hc
    exact hclauses c (Condition.mem_leaves_of_row hrow hc)
  obtain ⟨e, hrender, hdisjuncts, hempty⟩ :=
    Condition.exists_rows_expression (Definition.variants_ne_nil hfull) hrows
  have htext := d.toList_renderNormal
  rw [NormalForm.render, ← Definition.variants, ← hrender] at htext
  let d' : Definition := ⟨d.name, d.priority, Source.topConditions e.tree⟩
  have hvariants : d'.variants = d.variants :=
    (Condition.disjuncts_topConditions e.tree).trans hdisjuncts
  have hfull' : ¬ d'.HasEmptyGroup := by
    apply Definition.not_hasEmptyGroup_condition.mp
    exact Condition.not_hasEmptyGroup_topConditions hempty
  refine ⟨d', Source.parse_body hname htext, fun limits action => ?_⟩
  exact Definition.compile_congr rfl rfl hvariants hfull hfull'

def pricedOrder : Clause := ⟨[.target "Order", .tests [
  .property ⟨⟨["price"]⟩, some (.named "p"), none, .none⟩]]⟩

def highBid : Clause := ⟨[.tests [.property ⟨⟨["bid"]⟩, none, some .gte, .refs [.named "p"]⟩]]⟩

def noTrade : Clause := ⟨[.modifier .negated, .target "Trade"]⟩

def spread : Definition where
  name := "spread"
  priority := some (-1)
  -- No text reads back as a group of a single member.
  conditions := [
    .group .and [.clause pricedOrder],
    .group .or [.group .or [.clause highBid], .clause noTrade]]

def spreadText : String :=
  "rule spread (priority -1): " ++
    "(Order where \x7b price as :p \x7d AND where \x7b bid >= @p \x7d) OR " ++
    "(Order where \x7b price as :p \x7d AND not Trade)"

lemma spread_printable : ∀ c ∈ spread.condition.leaves, c.Printable := by
  have hleaves : spread.condition.leaves = [pricedOrder, highBid, noTrade] := rfl
  have hprice : PropertyTest.Printable ⟨⟨["price"]⟩, some (.named "p"), none, .none⟩ :=
    @PropertyTest.Printable.bare _ (some "p") (by decide) (by decide)
  have hbid : PropertyTest.Printable ⟨⟨["bid"]⟩, none, some .gte, .refs [.named "p"]⟩ :=
    @PropertyTest.Printable.compared _ none _ _ (by decide) rfl (.reference (by decide) (by decide))
  rw [hleaves]
  simp only [List.forall_mem_cons]
  refine ⟨⟨by simp [pricedOrder], [], some "Order", none, some [_], rfl, by decide, rfl, ?_⟩,
    ⟨by simp [highBid], [], none, none, some [_], rfl, rfl, rfl, ?_⟩,
    ⟨by simp [noTrade], [.negated], some "Trade", none, none, rfl, by decide, rfl, by simp⟩,
    by simp⟩
  · simpa using hprice
  · simpa using hbid

open scoped Regex

theorem spread_renderNormal :
    (isIdentifier spread.name = true ∧ (∀ c ∈ spread.condition.leaves, c.Printable) ∧
      ¬ spread.HasEmptyGroup) ∧
    ∃ d rules, Source.parse spreadText = .ok [d] ∧ d.compile ⟨some 2⟩ () = .ok rules ∧
      spread.compile ⟨some 2⟩ () = .ok rules ∧ rules.length = 2 := by
  have hname : isIdentifier spread.name = true := by decide
  have hfull : ¬ spread.HasEmptyGroup := by
    rw [← Definition.not_hasEmptyGroup_condition, ← Condition.emptyGroup?_eq_none]
    rfl
  have htext : spread.renderNormal = spreadText := by decide +kernel
  obtain ⟨rules, hrules, hlength⟩ : ∃ rules,
      spread.compile ⟨some 2⟩ () = .ok rules ∧ rules.length = 2 := ⟨_, rfl, rfl⟩
  obtain ⟨d, hparse, hcompile⟩ := compile_renderNormal hname spread_printable hfull
  rw [htext] at hparse
  exact ⟨⟨hname, spread_printable, hfull⟩, d, rules, hparse,
    (hcompile ⟨some 2⟩ ()).trans hrules, hrules, hlength⟩

end Antecedent
