import Antecedent.Proofs.Source.Groups

/-! Expressions in which AND binds closer than OR, with as many parentheses as one likes, and what they
read back as. The text of a condition is such an expression. -/

namespace Antecedent

abbrev Connective.operands : Connective → Option Connective
  | .and => none
  | .or => some .and

inductive Spelling where
  | upper | lower

def Connective.spelled : Connective → Spelling → String
  | .and, .upper => "AND"
  | .and, .lower => "and"
  | .or, .upper => "OR"
  | .or, .lower => "or"

/-- A factor is a clause or an expression in parentheses; a term is a chain of factors, and an
expression a chain of terms. -/
inductive Phrase : Option Connective → Type
  | clause (c : Clause) (printable : c.Printable) : Phrase none
  | parens (e : Phrase (some .or)) : Phrase none
  | last {k : Connective} (x : Phrase k.operands) : Phrase (some k)
  | link {k : Connective} (x : Phrase k.operands) (spelling : Spelling) (rest : Phrase (some k)) :
      Phrase (some k)

abbrev Factor : Type := Phrase none

abbrev Expression : Type := Phrase (some .or)

namespace Phrase

def render {level : Option Connective} : Phrase level → String
  | .clause c _ => c.render
  | .parens e => "(" ++ e.render ++ ")"
  | .last x => x.render
  | @link k x spelling rest => x.render ++ " " ++ k.spelled spelling ++ " " ++ rest.render

mutual
def tree {level : Option Connective} : Phrase level → Condition
  | .clause c _ => .clause c
  | .parens e => e.tree
  | .last x => x.tree
  | @link k x _ rest => .group k (x.tree :: rest.trees)

def trees {level : Option Connective} : Phrase level → List Condition
  | .clause c _ => [.clause c]
  | .parens e => [e.tree]
  | .last x => [x.tree]
  | .link x _ rest => x.tree :: rest.trees
end

def first {k : Connective} : Phrase (some k) → Phrase k.operands
  | .last x => x
  | .link x _ _ => x

def more {k : Connective} : Phrase (some k) → List (Spelling × Phrase k.operands)
  | .last _ => []
  | .link _ spelling rest => (spelling, rest.first) :: rest.more

variable {k : Connective} {level : Option Connective}

def linked (k : Connective) (y : Spelling × Phrase k.operands) : List Char :=
  ' ' :: ((k.spelled y.1).toList ++ ' ' :: y.2.render.toList)

lemma toList_render : (p : Phrase (some k)) →
    p.render.toList = p.first.render.toList ++ p.more.flatMap (linked k)
  | .last x => by simp [render, first, more]
  | .link x spelling rest => by simp [render, first, more, linked, toList_render rest]

lemma trees_eq : (p : Phrase (some k)) → p.trees = p.first.tree :: p.more.map (·.2.tree)
  | .last x => by simp [trees, first, more]
  | .link x spelling rest => by simp [trees, first, more, trees_eq rest]

lemma tree_eq (p : Phrase (some k)) :
    p.tree = Source.grouped k p.first.tree (p.more.map (·.2.tree)) := by
  cases p with
  | last x => simp [tree, first, more, Source.grouped]
  | link x spelling rest => simp [tree, first, more, Source.grouped, trees_eq]

end Phrase

namespace Source

lemma spelled_mem (k : Connective) (spelling : Spelling) : k.spelled spelling ∈ spellings k := by
  cases k <;> cases spelling <;> decide

def phraseOf (inner : Reader Condition) : Option Connective → Reader Condition
  | none => primary inner
  | some .and => chain .and (primary inner)
  | some .or => disjunction inner

def PhraseEnds : Option Connective → List Char → Prop
  | none => ClauseEnds
  | some .and => TermEnds
  | some .or => fun rest => TermEnds rest ∧ (connective .or).Declines rest

variable {k : Connective} {rest : List Char} {inner : Reader Condition}

lemma phraseOf_chain : phraseOf inner (some k) = chain k (phraseOf inner k.operands) := by
  cases k <;> rfl

lemma phraseOf_leads (inner : Reader Condition) (level : Option Connective) :
    (phraseOf inner level).Leads := by
  have hprimary := primary_leads inner
  match level with
  | none => exact hprimary
  | some .and => exact chain_leads hprimary .and
  | some .or => exact chain_leads (chain_leads hprimary .and) .or

lemma phraseEnds_chain : PhraseEnds (some k) rest ↔
    PhraseEnds k.operands rest ∧ (connective k).Declines rest := by
  cases k with
  | and => exact ⟨fun h => ⟨h.toClauseEnds, h.and⟩, fun h => ⟨h.1, h.2⟩⟩
  | or => exact Iff.rfl

lemma phraseEnds_connective {word : String} (h : word ∈ spellings k) (more : List Char) :
    PhraseEnds k.operands (' ' :: (word.toList ++ ' ' :: more)) := by
  cases k with
  | and => exact clauseEnds_connective h more
  | or => exact termEnds_or h more

lemma phraseEnds_nil : PhraseEnds (some .or) [] where
  left :=
    { word := by rintro c ⟨⟩
      modifier := ⟨_, _, rfl⟩
      target := ⟨_, _, rfl⟩
      tag := ⟨_, _, rfl⟩
      tests := ⟨_, _, rfl⟩
      and := ⟨_, _, rfl⟩ }
  right := ⟨_, _, rfl⟩

lemma phraseEnds_close (more : List Char) : PhraseEnds (some .or) (')' :: more) :=
  ⟨termEnds_close more, _, _, rfl⟩

def Reads (inner : Reader Condition) {level : Option Connective} (p : Phrase level) : Prop :=
  ∀ r, PhraseEnds level r →
    ∃ t, Left t r ∧ phraseOf inner level (p.render.toList ++ r) = .ok p.tree t

def MembersRead (inner : Reader Condition) (p : Phrase (some k)) : Prop :=
  Reads inner p.first ∧ ∀ y ∈ p.more, Reads inner y.2

lemma membersRead_last {x : Phrase k.operands} (h : Reads inner x) :
    MembersRead inner (.last x) := by
  refine ⟨h, ?_⟩
  rw [Phrase.more]
  simp

lemma membersRead_link {x : Phrase k.operands} {p : Phrase (some k)} (spelling : Spelling)
    (hx : Reads inner x) (hp : MembersRead inner p) : MembersRead inner (.link x spelling p) := by
  refine ⟨hx, ?_⟩
  rw [Phrase.more]
  exact List.forall_mem_cons.mpr hp

lemma chain_phrase {p : Phrase (some k)} (h : MembersRead inner p) : Reads inner p := by
  intro r hr
  obtain ⟨hends, hdeclines⟩ := phraseEnds_chain.mp hr
  have hread : ∀ y ∈ (Spelling.upper, p.first) :: p.more, Reads inner y.2 :=
    List.forall_mem_cons.mpr h
  obtain ⟨t, ht, hok⟩ := chain_reads (phraseOf_leads inner k.operands)
    (fun y : Spelling × Phrase k.operands => y.2.render.toList) (fun y => k.spelled y.1)
    (fun y => y.2.tree) (.upper, p.first) p.more (fun y _ => spelled_mem k y.1) hread
    (fun _ hw more => phraseEnds_connective hw more) hends hdeclines
  refine ⟨t, ht, ?_⟩
  rw [phraseOf_chain, Phrase.toList_render, Phrase.tree_eq, List.append_assoc]
  exact hok

lemma conditionWithin_succ (depth : Nat) (s : List Char) :
    conditionWithin (depth + 1) s = disjunction (conditionWithin depth) s :=
  phraseOf_leads (conditionWithin depth) (some .or) _ _ (skipLayout_idem s)

lemma parens_read {depth : Nat} {e : Expression} (h : Reads (conditionWithin depth) e)
    (rest : List Char) : primary (conditionWithin (depth + 1))
      ((Phrase.parens e).render.toList ++ rest) = .ok e.tree rest := by
  obtain ⟨t, ht, hok⟩ := h (')' :: rest) (phraseEnds_close rest)
  have htext : (Phrase.parens e).render.toList ++ rest =
      '(' :: (e.render.toList ++ ')' :: rest) := by
    simp [Phrase.render]
  rw [htext]
  exact primary_parens ((conditionWithin_succ depth _).trans hok) ht

-- Every pair of parentheses takes up characters of the text and one level of depth.
mutual
theorem phrase_reads {level : Option Connective} {depth : Nat} : (p : Phrase level) →
    p.render.length ≤ depth → Reads (conditionWithin depth) p
  | .clause c h, _ => fun r hr => by
    rw [Phrase.render, Phrase.tree]
    exact primary_clause _ h hr
  | .parens e, hd => by
    have hopen : "(".length = 1 := rfl
    simp only [Phrase.render, String.length_append] at hd
    cases depth with
    | zero => omega
    | succ depth =>
      rw [Reads, Phrase.tree]
      exact fun r _ => ⟨r, Left.refl r, parens_read (phrase_reads e (by omega)) r⟩
  | .last x, hd => chain_phrase (membersRead_last (phrase_reads x hd))
  | .link x spelling rest, hd => by
    simp only [Phrase.render, String.length_append] at hd
    exact chain_phrase
      (membersRead_link spelling (phrase_reads x (by omega)) (members_read rest (by omega)))

theorem members_read {k : Connective} {depth : Nat} : (p : Phrase (some k)) →
    p.render.length ≤ depth → MembersRead (conditionWithin depth) p
  | .last x, hd => membersRead_last (phrase_reads x hd)
  | .link x spelling rest, hd => by
    simp only [Phrase.render, String.length_append] at hd
    exact membersRead_link spelling (phrase_reads x (by omega)) (members_read rest (by omega))
end

lemma condition_apply (s : List Char) :
    condition (' ' :: s) = disjunction (conditionWithin (s.length + 1)) (skipLayout s) := rfl

lemma expression_reads (e : Expression) (hr : PhraseEnds (some .or) rest) :
    ∃ t, Left t rest ∧ condition (' ' :: (e.render.toList ++ rest)) = .ok e.tree t := by
  have hlength : e.render.length ≤ (e.render.toList ++ rest).length + 1 := by
    rw [List.length_append, String.length_toList]
    omega
  obtain ⟨t, ht, hok⟩ := phrase_reads e hlength rest hr
  refine ⟨t, ht, ?_⟩
  rw [condition_apply, ← hok]
  exact phraseOf_leads _ (some .or) _ _ (skipLayout_idem _)

end Source

namespace Phrase

variable {k : Connective}

def chained (x : Phrase k.operands) : List (Phrase k.operands) → Phrase (some k)
  | [] => .last x
  | y :: ys => .link x .upper (chained y ys)

lemma spelled_upper (k : Connective) : k.spelled .upper = k.word := by
  cases k <;> rfl

lemma render_chained (x : Phrase k.operands) (xs : List (Phrase k.operands)) :
    (chained x xs).render = (" " ++ k.word ++ " ").intercalate ((x :: xs).map render) := by
  induction xs generalizing x with
  | nil => simp [chained, render]
  | cons y ys ih =>
    simp [chained, render, String.intercalate_cons_cons, ih, spelled_upper, String.append_assoc]

lemma trees_chained (x : Phrase k.operands) (xs : List (Phrase k.operands)) :
    (chained x xs).trees = (x :: xs).map tree := by
  induction xs generalizing x with
  | nil => simp [chained, trees]
  | cons y ys ih => simp [chained, trees, ih]

lemma tree_chained (x : Phrase k.operands) (xs : List (Phrase k.operands)) :
    (chained x xs).tree = Source.grouped k x.tree (xs.map tree) := by
  cases xs with
  | nil => simp [chained, tree, Source.grouped]
  | cons y ys => simp [chained, tree, Source.grouped, trees_chained]

def joining : (k : Connective) → Factor → List Factor → Expression
  | .and, f, fs => .last (chained f fs)
  | .or, f, fs => chained (.last f) (fs.map .last)

lemma render_joining (k : Connective) (f : Factor) (fs : List Factor) :
    (joining k f fs).render = (" " ++ k.word ++ " ").intercalate ((f :: fs).map render) := by
  cases k with
  | and => exact render_chained (k := .and) f fs
  | or =>
    have hchain := render_chained (k := .or) (.last f) (fs.map .last)
    rwa [← List.map_cons (f := last), List.map_map] at hchain

lemma tree_joining (k : Connective) (f : Factor) (fs : List Factor) :
    (joining k f fs).tree = Source.grouped k f.tree (fs.map tree) := by
  cases k with
  | and => exact tree_chained (k := .and) f fs
  | or =>
    have hchain := tree_chained (k := .or) (.last f) (fs.map .last)
    rwa [List.map_map] at hchain

end Phrase

namespace Condition

variable {c : Condition} {members : List Condition}

lemma renderList_eq (ms : List Condition) : renderList ms = ms.map render := by
  induction ms with
  | nil => rw [renderList, List.map_nil]
  | cons m ms ih => rw [renderList, ih, List.map_cons]

def WrittenAs (c : Condition) (f : Factor) : Prop := f.render = c.render ∧ f.tree = c

lemma exists_factors (h : ∀ c ∈ members, ∃ f, c.WrittenAs f) : ∃ fs : List Factor,
    fs.map Phrase.render = members.map render ∧ fs.map Phrase.tree = members := by
  induction members with
  | nil => exact ⟨[], rfl, rfl⟩
  | cons c cs ih =>
    obtain ⟨⟨f, hrender, htree⟩, hcs⟩ := List.forall_mem_cons.mp h
    obtain ⟨fs, hrenders, htrees⟩ := ih hcs
    exact ⟨f :: fs, by simp [hrender, hrenders], by simp [htree, htrees]⟩

lemma exists_expression {m : Condition} {ms : List Condition} (k : Connective)
    (h : ∀ c ∈ m :: ms, ∃ f, c.WrittenAs f) : ∃ e : Expression,
      (Phrase.parens e).render = (group k (m :: ms)).render ∧ e.tree = Source.grouped k m ms := by
  obtain ⟨fs, hrenders, htrees⟩ := exists_factors h
  obtain ⟨f, fs, rfl, rfl, rfl⟩ := List.map_eq_cons_iff.mp htrees
  refine ⟨.joining k f fs, ?_, Phrase.tree_joining k f fs⟩
  rw [Phrase.render, Phrase.render_joining, hrenders, render, renderList_eq]

lemma Built.exists_factor (h : c.Built Clause.Printable) : ∃ f, c.WrittenAs f := by
  induction h with
  | @clause c hc => exact ⟨.clause c hc, by simp [WrittenAs, Phrase.render, Phrase.tree, render]⟩
  | @group k members hl _ ih =>
    obtain ⟨m, ms, rfl⟩ : ∃ m ms, members = m :: ms :=
      List.exists_cons_of_length_pos (by omega)
    obtain ⟨e, hrender, htree⟩ := exists_expression k ih
    refine ⟨.parens e, hrender, ?_⟩
    have hms : ms.isEmpty = false := by
      cases ms with
      | nil => simp at hl
      | cons _ _ => rfl
    rw [Phrase.tree, htree, Source.grouped, hms]
    rfl

end Condition

end Antecedent
