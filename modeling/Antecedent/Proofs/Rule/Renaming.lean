import Antecedent.Proofs.Condition.Leaves
import Antecedent.Proofs.Rule.Likeness
import Antecedent.Regex.Reading
import Mathlib.Logic.Equiv.Basic

/-! Written tags under other names, different ones for different tags. The rules change in these
names and in nothing else. -/

namespace Antecedent

mutual
def Operand.rename (f : String → String) : Operand → Operand
  | .refs tags => .refs (tags.map (Tag.rename f))
  | .nested test => .nested (test.rename f)
  | operand => operand

def PropertyTest.rename (f : String → String) : PropertyTest → PropertyTest
  | ⟨path, tag, op, operand⟩ => ⟨path, tag.map (Tag.rename f), op, operand.rename f⟩
end

def Test.rename (f : String → String) : Test → Test
  | .property t => .property (t.rename f)
  | .function t => .function t

def Token.rename (f : String → String) : Token → Token
  | .tag t => .tag (t.rename f)
  | .tests ts => .tests (ts.map (Test.rename f))
  | token => token

def Clause.rename (f : String → String) (c : Clause) : Clause := ⟨c.tokens.map (Token.rename f)⟩

namespace Condition

mutual
def mapClauses (g : Clause → Clause) : Condition → Condition
  | .clause c => .clause (g c)
  | .group k members => .group k (mapMembers g members)

def mapMembers (g : Clause → Clause) : List Condition → List Condition
  | [] => []
  | c :: cs => c.mapClauses g :: mapMembers g cs
end

end Condition

def Definition.rename (f : String → String) (d : Definition) : Definition :=
  { d with conditions := Condition.mapMembers (Clause.rename f) d.conditions }

def AtomKind.rename (f : String → String) : AtomKind → AtomKind
  | .reference path op tags => .reference path op (tags.map (Tag.rename f))
  | kind => kind

def Atom.rename (f : String → String) (a : Atom) : Atom :=
  { a with tag := a.tag.rename f, kind := a.kind.rename f }

def ClausePattern.rename (f : String → String) (p : ClausePattern) : ClausePattern :=
  { p with head := p.head.rename f, atoms := p.atoms.map (Atom.rename f) }

def Pattern.rename (f : String → String) : Pattern → Pattern
  | .clause p => .clause (p.rename f)
  | .and left right => .and (left.rename f) (right.rename f)

def Rule.rename {α : Type} (f : String → String) (r : Rule α) : Rule α :=
  { r with pattern := r.pattern.rename f }

namespace Condition

variable {g : Clause → Clause}

lemma mapMembers_eq (members : List Condition) :
    mapMembers g members = members.map (mapClauses g) := by
  induction members with
  | nil => rfl
  | cons c cs ih => rw [mapMembers, ih, List.map_cons]

lemma continueRows_map (rows alternatives : List (List Clause)) :
    continueRows (rows.map (List.map g)) (alternatives.map (List.map g)) =
      (continueRows rows alternatives).map (List.map g) := by
  simp [continueRows, List.flatMap_map, List.map_flatMap, Function.comp_def]

lemma disjuncts_mapClauses (t : Condition) :
    (t.mapClauses g).normalForm.disjuncts = t.normalForm.disjuncts.map (List.map g) := by
  induction t using member_induction with
  | clause c => simp [mapClauses]
  | nil k => cases k <;> simp [mapClauses, mapMembers]
  | cons k t ts ht hts =>
    rw [mapClauses] at hts
    rw [mapClauses, mapMembers]
    cases k with
    | and => rw [disjuncts_and_cons, disjuncts_and_cons, ht, hts, continueRows_map]
    | or => rw [disjuncts_or_cons, disjuncts_or_cons, ht, hts, List.map_append]

lemma not_hasEmptyGroup_mapClauses (t : Condition) :
    ¬ (t.mapClauses g).HasEmptyGroup ↔ ¬ t.HasEmptyGroup := by
  induction t using tree_induction with
  | clause c => simp [mapClauses, not_hasEmptyGroup_clause]
  | group k members ih =>
    rw [mapClauses, mapMembers_eq, not_hasEmptyGroup_group, not_hasEmptyGroup_group,
      List.forall_mem_map, ne_eq, List.map_eq_nil_iff]
    exact and_congr_right fun _ => forall₂_congr ih

end Condition

section Renamed

variable (f : String → String)

def Likeness.renamed : Likeness := ⟨f, Eq, Eq⟩

lemma PropertyTest.alike_rename (t : PropertyTest) : t.Alike (.renamed f) (t.rename f) := by
  induction t using PropertyTest.chain.induct with
  | case1 path tag op child ih => exact .nested path tag op ih
  | case2 t ho =>
    obtain ⟨path, tag, op, operand⟩ := t
    rw [PropertyTest.rename]
    apply PropertyTest.Alike.plain
    cases operand with
    | none => exact .none
    | value v => exact .value rfl
    | range low high => exact .range rfl rfl
    | pattern source => exact .pattern source
    | type name => exact .type name
    | refs tags => exact .refs tags
    | nested child => exact (ho path tag op child rfl).elim

lemma Test.alike_rename (t : Test) : t.Alike (.renamed f) (t.rename f) := by
  cases t with
  | property t => exact .property (t.alike_rename f)
  | function t => exact .function (List.forall₂_same.mpr fun _ _ => rfl) rfl

lemma Token.alike_rename (t : Token) : t.Alike (.renamed f) (t.rename f) := by
  cases t with
  | modifier m => exact .modifier m
  | target type => exact .target type
  | tag t => exact .tag t
  | tests ts =>
    apply Token.Alike.tests
    rw [List.forall₂_map_right_iff]
    exact List.forall₂_same.mpr fun t _ => t.alike_rename f

lemma Clause.alike_rename (c : Clause) : c.Alike (.renamed f) (c.rename f) := by
  rw [Clause.Alike, Clause.rename, List.forall₂_map_right_iff]
  exact List.forall₂_same.mpr fun t _ => t.alike_rename f

lemma Definition.condition_rename (d : Definition) :
    (d.rename f).condition = d.condition.mapClauses (Clause.rename f) := by
  rw [condition, condition, Condition.mapClauses, rename]

lemma Definition.alike_rename (d : Definition) : d.Alike (.renamed f) (d.rename f) where
  name := rfl
  priority := rfl
  hasEmptyGroup := by
    rw [← not_iff_not, ← not_hasEmptyGroup_condition, ← not_hasEmptyGroup_condition,
      condition_rename, Condition.not_hasEmptyGroup_mapClauses]
  variants := by
    rw [variants, variants, condition_rename, Condition.disjuncts_mapClauses,
      List.forall₂_map_right_iff]
    refine List.forall₂_same.mpr fun row _ => ?_
    rw [List.forall₂_map_right_iff]
    exact List.forall₂_same.mpr fun c _ => c.alike_rename f

variable {f}

lemma AtomKind.Alike.eq_rename {k k' : AtomKind} (h : k.Alike (.renamed f) k') :
    k' = k.rename f := by
  cases h with
  | equals path hv | notEquals path hv | compare path op hv => exact congrArg _ (Eq.symm hv)
  | between path hlow hhigh => exact congrArg₂ _ (Eq.symm hlow) (Eq.symm hhigh)
  | function hargs hp =>
    have hargs : List.Forall₂ Eq _ _ := hargs
    rw [List.forall₂_eq_eq_eq] at hargs
    exact congrArg₂ _ hargs.symm (Eq.symm hp)
  | _ => rfl

lemma Atom.Alike.eq_rename {a b : Atom} (h : a.Alike (.renamed f) b) : b = a.rename f := by
  obtain ⟨tag, template, kind⟩ := b
  obtain ⟨rfl, rfl, hkind⟩ := h
  obtain rfl : kind = a.kind.rename f := hkind.eq_rename
  rfl

lemma eq_map_of_forall₂ {α : Type} {R : α → α → Prop} {g : α → α} {xs ys : List α}
    (h : List.Forall₂ R xs ys) (hR : ∀ x y, R x y → y = g x) : ys = xs.map g := by
  have heq : List.Forall₂ Eq (xs.map g) ys :=
    List.forall₂_map_left_iff.mpr (h.imp fun x y hxy => (hR x y hxy).symm)
  rw [List.forall₂_eq_eq_eq] at heq
  exact heq.symm

lemma ClausePattern.Alike.eq_rename {p q : ClausePattern} (h : p.Alike (.renamed f) q) :
    q = p.rename f := by
  obtain ⟨index, kind, head, atoms⟩ := q
  obtain ⟨rfl, rfl, hhead, hatoms⟩ := h
  obtain rfl : head = p.head.rename f := hhead.eq_rename
  obtain rfl : atoms = p.atoms.map (Atom.rename f) :=
    eq_map_of_forall₂ hatoms fun _ _ h => h.eq_rename
  rfl

lemma Pattern.Alike.eq_rename {p q : Pattern} (h : p.Alike (.renamed f) q) : q = p.rename f := by
  induction h with
  | clause h => rw [h.eq_rename, Pattern.rename]
  | and _ _ iha ihb => rw [iha, ihb, Pattern.rename]

lemma Rule.Alike.eq_rename {α : Type} {r r' : Rule α} (h : r.Alike (.renamed f) r') :
    r' = r.rename f := by
  obtain ⟨name, pattern, action, priority⟩ := r'
  obtain ⟨rfl, hpattern, rfl, rfl⟩ := h
  obtain rfl : pattern = r.pattern.rename f := hpattern.eq_rename
  rfl

end Renamed

theorem compile_renamed [PatternReader] {α : Type} {f : String → String} (hf : f.Injective)
    (d : Definition) (limits : Limits) (action : α) :
    ((∃ rules, (d.rename f).compile limits action = .ok rules) ↔
      ∃ rules, d.compile limits action = .ok rules) ∧
    (∀ rules, d.compile limits action = .ok rules →
      (d.rename f).compile limits action = .ok (rules.map (Rule.rename f))) ∧
    ∀ fault fault', d.compile limits action = .error fault →
      (d.rename f).compile limits action = .error fault' →
        fault'.kind = fault.kind ∧ fault'.clause? = fault.clause? := by
  have hagree := Definition.compile_alike hf (d.alike_rename f) limits action
  generalize d.compile limits action = x at hagree
  generalize (d.rename f).compile limits action = y at hagree
  cases hagree with
  | ok hrules =>
    have hmap := eq_map_of_forall₂ hrules fun _ _ h => h.eq_rename
    refine ⟨⟨fun _ => ⟨_, rfl⟩, fun _ => ⟨_, rfl⟩⟩, ?_, ?_⟩
    · rintro rules ⟨⟩
      rw [hmap]
    · rintro fault fault' ⟨⟩
  | error he =>
    refine ⟨⟨?_, ?_⟩, ?_, ?_⟩
    · rintro ⟨_, ⟨⟩⟩
    · rintro ⟨_, ⟨⟩⟩
    · rintro rules ⟨⟩
    · rintro fault fault' ⟨⟩ ⟨⟩
      exact he

def priced : Definition where
  name := "priced"
  priority := none
  conditions := [
    .clause ⟨[.target "Order", .tests [.property ⟨⟨["price"]⟩, some (.named "p"), none, .none⟩]]⟩,
    .group .or [
      .clause ⟨[.target "Trade", .tag (.generated 2)]⟩,
      .clause ⟨[.target "Quote", .tests [
        .property ⟨⟨["ask"]⟩, some (.named "q"), some .gt, .refs [.named "p"]⟩,
        .property ⟨⟨["bid"]⟩, none, some .lt, .refs [.named "q"]⟩]]⟩]]

def PricedKinds (first second : String) (rules : List (Rule Unit)) : Prop :=
  rules.map (fun r => r.pattern.clauses.map fun p => (p.head :: p.atoms).map fun a =>
      (a.tag, a.kind)) =
    [[[(.generated 0, .head), (.named first, .bind ⟨["price"]⟩)], [(.generated 2, .head)]],
      [[(.generated 0, .head), (.named first, .bind ⟨["price"]⟩)],
        [(.generated 1, .head), (.named second, .reference ⟨["ask"]⟩ .gt [.named first]),
          (.generated 2, .selfReference ⟨["bid"]⟩ .lt [⟨["ask"]⟩])]]]

open scoped Regex

theorem priced_swapped : ∃ rules rules',
    priced.compile .unbounded () = .ok rules ∧ PricedKinds "p" "q" rules ∧
      (priced.rename (Equiv.swap "p" "q")).compile .unbounded () = .ok rules' ∧
        rules' = rules.map (Rule.rename (Equiv.swap "p" "q")) ∧ PricedKinds "q" "p" rules' := by
  have hswap := (Equiv.swap "p" "q").injective
  have hrules : priced.compile .unbounded () = .ok _ := rfl
  have hswapped := (compile_renamed hswap priced .unbounded ()).2.1 _ hrules
  exact ⟨_, _, hrules, rfl, hswapped, rfl, rfl⟩

end Antecedent
