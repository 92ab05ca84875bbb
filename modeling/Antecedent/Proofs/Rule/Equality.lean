import Antecedent.Proofs.Rule.Likeness
import Antecedent.Regex.Reading

/-! Definitions that compare equal, though they need not be the same: the two zeros are equal. They
compile into rules that compare equal, one by one. -/

namespace Antecedent

def Likeness.equal : Likeness where
  name := id
  value v w := (v == w) = true
  predicate p q := (p == q) = true

@[simp] lemma Likeness.equal_tag : Likeness.equal.tag = id := by
  funext t
  cases t <;> rfl

lemma beq_iff_forall₂ {α : Type} [BEq α] {xs ys : List α} :
    (xs == ys) = true ↔ List.Forall₂ (fun x y => (x == y) = true) xs ys := by
  induction xs generalizing ys with
  | nil => cases ys <;> simp
  | cons x xs ih => cases ys <;> simp [ih]

section Written

lemma Operand.alike_or_nested {a b : Operand} (h : (a == b) = true) :
    a.Alike .equal b ∨ ∃ child child', a = .nested child ∧ b = .nested child' ∧
      (child == child') = true := by
  change a.beq b = true at h
  revert h
  fun_cases Operand.beq a b <;> intro h
  case case1 => exact .inl .none
  case case2 => exact .inl (.value h)
  case case3 =>
    obtain ⟨hlow, hhigh⟩ := Bool.and_eq_true_iff.mp h
    exact .inl (.range hlow hhigh)
  case case4 =>
    obtain rfl := eq_of_beq h
    exact .inl (.pattern _)
  case case5 =>
    obtain rfl := eq_of_beq h
    exact .inl (.type _)
  case case6 tags tags' =>
    obtain rfl := eq_of_beq h
    have hrefs := Alike.refs (l := .equal) tags
    rw [Likeness.equal_tag, List.map_id] at hrefs
    exact .inl hrefs
  case case7 child child' => exact .inr ⟨child, child', rfl, rfl, h⟩
  case case8 => cases h

lemma PropertyTest.beq_iff {t u : PropertyTest} : (t == u) = true ↔
    t.path = u.path ∧ t.tag = u.tag ∧ t.op = u.op ∧ (t.operand == u.operand) = true := by
  obtain ⟨path, tag, op, operand⟩ := t
  obtain ⟨path', tag', op', operand'⟩ := u
  change (path == path' && tag == tag' && op == op' && operand == operand') = true ↔ _
  simp [and_assoc]

lemma PropertyTest.alike_of_beq {t u : PropertyTest} (h : (t == u) = true) :
    t.Alike .equal u := by
  induction t using PropertyTest.chain.induct generalizing u with
  | case1 path tag op child ih =>
    obtain ⟨path', tag', op', operand'⟩ := u
    obtain ⟨rfl, rfl, rfl, ho⟩ := beq_iff.mp h
    obtain ha | ⟨_, child', ⟨⟩, rfl, hc⟩ := Operand.alike_or_nested ho
    · cases ha
    · have hnested := Alike.nested (l := .equal) path tag op (ih hc)
      rwa [Likeness.equal_tag, Option.map_id] at hnested
  | case2 t hplain =>
    obtain ⟨path, tag, op, operand⟩ := t
    obtain ⟨path', tag', op', operand'⟩ := u
    obtain ⟨rfl, rfl, rfl, ho⟩ := beq_iff.mp h
    obtain ha | ⟨child, _, rfl, _⟩ := Operand.alike_or_nested ho
    · have hsingle := Alike.plain (l := .equal) path tag op ha
      rwa [Likeness.equal_tag, Option.map_id] at hsingle
    · exact (hplain path tag op child rfl).elim

lemma Test.alike_of_beq {t u : Test} (h : (t == u) = true) : t.Alike .equal u := by
  change t.beq u = true at h
  revert h
  fun_cases Test.beq t u <;> intro h
  case case1 => exact .property (PropertyTest.alike_of_beq h)
  case case2 t u =>
    obtain ⟨hargs, hp⟩ := Bool.and_eq_true_iff.mp h
    exact .function (beq_iff_forall₂.mp hargs) hp
  case case3 => cases h

lemma Token.alike_of_beq {t u : Token} (h : (t == u) = true) : t.Alike .equal u := by
  change instBEqToken.beq t u = true at h
  revert h
  fun_cases instBEqToken.beq t u <;> intro h
  case case1 =>
    obtain rfl := eq_of_beq h
    exact .modifier _
  case case2 =>
    obtain rfl := eq_of_beq h
    exact .target _
  case case3 t _ =>
    obtain rfl := eq_of_beq h
    have htag := Alike.tag (l := .equal) t
    rwa [Likeness.equal_tag] at htag
  case case4 => exact .tests ((beq_iff_forall₂.mp h).imp fun _ _ => Test.alike_of_beq)
  case case5 => cases h

lemma Clause.alike_of_beq {c d : Clause} (h : (c == d) = true) : c.Alike .equal d :=
  (beq_iff_forall₂.mp h).imp fun _ _ => Token.alike_of_beq

namespace Condition

variable {c : Clause} {k : Connective} {t u : Condition} {members : List Condition}

lemma beqList_eq (members members' : List Condition) :
    beqList members members' = (members == members') := by
  induction members generalizing members' with
  | nil => cases members' <;> rfl
  | cons t ts ih =>
    cases members' with
    | nil => rfl
    | cons u us => exact congrArg (t.beq u && ·) (ih us)

lemma exists_of_clause_beq (h : (clause c == u) = true) : ∃ d, u = .clause d ∧ (c == d) = true := by
  cases u with
  | clause d => exact ⟨d, rfl, h⟩
  | group k members => cases h

lemma group_beq_iff {members members' : List Condition} {k k' : Connective} :
    (group k members == group k' members') = true ↔ k = k' ∧
      List.Forall₂ (fun t u => (t == u) = true) members members' := by
  change (k == k' && beqList members members') = true ↔ _
  rw [Bool.and_eq_true_iff, beq_iff_eq, beqList_eq, beq_iff_forall₂]

lemma exists_of_group_beq (h : (group k members == u) = true) : ∃ members', u = .group k members' ∧
    List.Forall₂ (fun t u => (t == u) = true) members members' := by
  cases u with
  | clause d => cases h
  | group k' members' =>
    obtain ⟨rfl, hmembers⟩ := group_beq_iff.mp h
    exact ⟨members', rfl, hmembers⟩

def RowsEqual (rows rows' : List (List Clause)) : Prop :=
  List.Forall₂ (List.Forall₂ fun c d => (c == d) = true) rows rows'

lemma RowsEqual.continueRows {rows rows' alternatives alternatives' : List (List Clause)}
    (hr : RowsEqual rows rows') (ha : RowsEqual alternatives alternatives') :
    RowsEqual (continueRows rows alternatives) (continueRows rows' alternatives') := by
  refine List.rel_flatMap hr ?_
  intro row row' hrow
  refine List.rel_map ?_ ha
  intro more more' hmore
  exact List.rel_append hrow hmore

lemma disjuncts_of_beq (h : (t == u) = true) :
    RowsEqual t.normalForm.disjuncts u.normalForm.disjuncts := by
  induction t using member_induction generalizing u with
  | clause c =>
    obtain ⟨d, rfl, hd⟩ := exists_of_clause_beq h
    rw [disjuncts_clause, disjuncts_clause]
    exact .cons (.cons hd .nil) .nil
  | nil k =>
    obtain ⟨_, rfl, ⟨⟩⟩ := exists_of_group_beq h
    cases k with
    | and =>
      rw [disjuncts_and_nil]
      exact .cons .nil .nil
    | or =>
      rw [disjuncts_or_nil]
      exact .nil
  | cons k t ts ht hts =>
    obtain ⟨_, rfl, hmembers⟩ := exists_of_group_beq h
    obtain ⟨u, us, hu, hus, rfl⟩ := List.forall₂_cons_left_iff.mp hmembers
    have hmore := hts (group_beq_iff.mpr ⟨rfl, hus⟩)
    cases k with
    | and =>
      rw [disjuncts_and_cons, disjuncts_and_cons]
      exact (ht hu).continueRows hmore
    | or =>
      rw [disjuncts_or_cons, disjuncts_or_cons]
      exact List.rel_append (ht hu) hmore

lemma not_hasEmptyGroup_of_beq (h : (t == u) = true) : ¬ t.HasEmptyGroup ↔ ¬ u.HasEmptyGroup := by
  induction t using tree_induction generalizing u with
  | clause c =>
    obtain ⟨d, rfl, _⟩ := exists_of_clause_beq h
    exact iff_of_true (not_hasEmptyGroup_clause c) (not_hasEmptyGroup_clause d)
  | group k members ih =>
    obtain ⟨members', rfl, hmembers⟩ := exists_of_group_beq h
    rw [not_hasEmptyGroup_group, not_hasEmptyGroup_group]
    refine and_congr (by cases hmembers <;> simp) ?_
    clear h
    induction hmembers with
    | nil => rfl
    | cons ht _ ihts =>
      rw [List.forall_mem_cons, List.forall_mem_cons]
      exact and_congr (ih _ List.mem_cons_self ht)
        (ihts fun t hmem => ih t (List.mem_cons_of_mem _ hmem))

end Condition

lemma Definition.alike_of_beq {d d' : Definition} (h : (d == d') = true) : d.Alike .equal d' := by
  obtain ⟨hname, hmore⟩ := Bool.and_eq_true_iff.mp h
  obtain ⟨hpriority, hconditions⟩ := Bool.and_eq_true_iff.mp hmore
  have hcondition : (d.condition == d'.condition) = true :=
    Condition.group_beq_iff.mpr ⟨rfl, beq_iff_forall₂.mp hconditions⟩
  refine ⟨(eq_of_beq hname).symm, (eq_of_beq hpriority).symm, ?_, ?_⟩
  · rw [← not_iff_not, ← not_hasEmptyGroup_condition, ← not_hasEmptyGroup_condition]
    exact Condition.not_hasEmptyGroup_of_beq hcondition
  · refine (Condition.disjuncts_of_beq hcondition).imp fun row row' hrow => ?_
    exact hrow.imp fun _ _ => Clause.alike_of_beq

end Written

section Compiled

lemma AtomKind.Alike.beq {k k' : AtomKind} (h : k.Alike .equal k') : (k == k') = true := by
  cases h with
  | head => rfl
  | bind path => exact beq_self_eq_true path
  | equals path hv | notEquals path hv =>
    exact Bool.and_eq_true_iff.mpr ⟨beq_self_eq_true path, hv⟩
  | compare path op hv =>
    exact Bool.and_eq_true_iff.mpr ⟨beq_self_eq_true path,
      Bool.and_eq_true_iff.mpr ⟨beq_self_eq_true op, hv⟩⟩
  | resembles path m =>
    exact Bool.and_eq_true_iff.mpr ⟨beq_self_eq_true path, beq_self_eq_true m.source⟩
  | between path hlow hhigh =>
    exact Bool.and_eq_true_iff.mpr ⟨beq_self_eq_true path, Bool.and_eq_true_iff.mpr ⟨hlow, hhigh⟩⟩
  | isA path type =>
    exact Bool.and_eq_true_iff.mpr ⟨beq_self_eq_true path, beq_self_eq_true type⟩
  | reference path op tags =>
    rw [Likeness.equal_tag, List.map_id]
    exact Bool.and_eq_true_iff.mpr ⟨beq_self_eq_true path,
      Bool.and_eq_true_iff.mpr ⟨beq_self_eq_true op, beq_self_eq_true tags⟩⟩
  | selfReference path op paths =>
    exact Bool.and_eq_true_iff.mpr ⟨beq_self_eq_true path,
      Bool.and_eq_true_iff.mpr ⟨beq_self_eq_true op, beq_self_eq_true paths⟩⟩
  | function hargs hp => exact Bool.and_eq_true_iff.mpr ⟨beq_iff_forall₂.mpr hargs, hp⟩

lemma Atom.Alike.beq {a b : Atom} (h : a.Alike .equal b) : (a == b) = true := by
  obtain ⟨tag, template, kind⟩ := b
  obtain ⟨rfl, rfl, hkind⟩ := h
  rw [Likeness.equal_tag]
  exact Bool.and_eq_true_iff.mpr ⟨beq_self_eq_true a.tag,
    Bool.and_eq_true_iff.mpr ⟨beq_self_eq_true a.template, hkind.beq⟩⟩

lemma ClausePattern.Alike.beq {p q : ClausePattern} (h : p.Alike .equal q) : (p == q) = true := by
  obtain ⟨index, kind, head, atoms⟩ := q
  obtain ⟨rfl, rfl, hhead, hatoms⟩ := h
  have hatoms : (p.atoms == atoms) = true := beq_iff_forall₂.mpr (hatoms.imp fun _ _ h => h.beq)
  exact Bool.and_eq_true_iff.mpr ⟨beq_self_eq_true p.index,
    Bool.and_eq_true_iff.mpr ⟨beq_self_eq_true p.kind,
      Bool.and_eq_true_iff.mpr ⟨hhead.beq, hatoms⟩⟩⟩

lemma Pattern.Alike.beq {p q : Pattern} (h : p.Alike .equal q) : (p == q) = true := by
  induction h with
  | clause h => exact h.beq
  | and _ _ iha ihb => exact Bool.and_eq_true_iff.mpr ⟨iha, ihb⟩

lemma Rule.Alike.beq {α : Type} [BEq α] {r r' : Rule α} (h : r.Alike .equal r')
    (ha : (r.action == r.action) = true) : (r == r') = true := by
  obtain ⟨name, pattern, action, priority⟩ := r'
  obtain ⟨rfl, hpattern, rfl, rfl⟩ := h
  exact Bool.and_eq_true_iff.mpr ⟨beq_self_eq_true r.name,
    Bool.and_eq_true_iff.mpr ⟨hpattern.beq,
      Bool.and_eq_true_iff.mpr ⟨ha, beq_self_eq_true r.priority⟩⟩⟩

lemma Definition.action_of_compile [PatternReader] {α : Type} {d : Definition} {limits : Limits}
    {action : α} {rules : List (Rule α)} (h : d.compile limits action = .ok rules) :
    ∀ r ∈ rules, r.action = action := by
  have hrows := assemble_ok.mp (assemble_of_compile h)
  generalize d.condition.normalForm.disjuncts = rows at hrows
  clear h
  induction hrows with
  | nil => simp
  | cons hr _ ih =>
    obtain ⟨pattern, _, rfl⟩ := hr
    exact List.forall_mem_cons.mpr ⟨rfl, ih⟩

end Compiled

theorem compile_equal [PatternReader] {α : Type} [BEq α] {d d' : Definition} (h : (d == d') = true)
    (limits : Limits) (action : α) (ha : (action == action) = true) :
    ((∃ rules, d.compile limits action = .ok rules) ↔
      ∃ rules, d'.compile limits action = .ok rules) ∧
    (∀ rules rules', d.compile limits action = .ok rules →
      d'.compile limits action = .ok rules' →
        rules.length = rules'.length ∧ List.Forall₂ (fun r r' => (r == r') = true) rules rules') ∧
    ∀ fault fault', d.compile limits action = .error fault →
      d'.compile limits action = .error fault' →
        fault'.kind = fault.kind ∧ fault'.clause? = fault.clause? := by
  have hagree := Definition.compile_alike (l := .equal) Function.injective_id
    (Definition.alike_of_beq h) limits action
  refine ⟨hagree.exists_ok_iff, ?_, ?_⟩
  · intro rules rules' hok hok'
    have hactions := Definition.action_of_compile hok
    rw [hok, hok'] at hagree
    have hboth := (List.forall₂_and_left _ _).mpr ⟨hactions, hagree.results⟩
    refine ⟨hboth.length_eq, hboth.imp ?_⟩
    rintro r r' ⟨hr, halike⟩
    exact halike.beq (hr ▸ ha)
  · intro fault fault' herror herror'
    rw [herror, herror'] at hagree
    exact hagree.faults

def bounded (op : Operator) (x : Float) : Definition where
  name := "bounded"
  priority := some 3
  conditions := [
    .group .or [
      .clause ⟨[.target "Quote", .tests [
        .function ⟨[.float x, .bool true], ⟨7, fun _ args => args.isEmpty⟩⟩]]⟩,
      .clause ⟨[.target "Trade", .tests [
        .property ⟨⟨["venue"]⟩, none, some .matching, .pattern "x|y"⟩]]⟩],
    .clause ⟨[.target "Order", .tests [
      .property ⟨⟨["price"]⟩, none, some op, .value (.float x)⟩]]⟩]

open scoped Regex

theorem bounded_zeros_equal : (0.0 : Float).toBits ≠ (-0.0 : Float).toBits ∧
    (bounded .gt 0.0 == bounded .gt (-0.0)) = true ∧
    (∃ rules rules', (bounded .gt 0.0).compile .unbounded () = .ok rules ∧
      (bounded .gt (-0.0)).compile .unbounded () = .ok rules' ∧ rules.length = 2 ∧
        List.Forall₂ (fun r r' => (r == r') = true) rules rules') ∧
    (bounded .ne 0.0 == bounded .ne (-0.0)) = true ∧
    ∃ fault fault', (bounded .ne 0.0).compile .unbounded () = .error fault ∧
      (bounded .ne (-0.0)).compile .unbounded () = .error fault' ∧
        fault'.kind = fault.kind ∧ fault'.clause? = some 1 := by
  have hequal : (bounded .gt 0.0 == bounded .gt (-0.0)) = true := by decide
  have hequal' : (bounded .ne 0.0 == bounded .ne (-0.0)) = true := by decide
  obtain ⟨-, hrules, -⟩ := compile_equal hequal .unbounded () rfl
  obtain ⟨-, -, hfaults⟩ := compile_equal hequal' .unbounded () rfl
  refine ⟨by decide, hequal, ⟨_, _, rfl, rfl, rfl, (hrules _ _ rfl rfl).2⟩, hequal', ?_⟩
  exact ⟨_, _, rfl, rfl, hfaults _ _ rfl rfl⟩

end Antecedent
