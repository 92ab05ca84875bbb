import Antecedent.Proofs.Condition.Built
import Antecedent.Proofs.Pattern.Admission
import Antecedent.Proofs.Source.Replies
import Antecedent.Source.Rules

namespace Antecedent.Source

variable {α β : Type}

def Reader.Yields (p : Reader α) (P : α → Prop) : Prop := ∀ s a t, p s = .ok a t → P a

namespace Reader.Yields

variable {p : Reader α} {f : α → Reader β} {g : α → β} {P : α → Prop} {Q : β → Prop}
  {ps : List (Reader α)}

lemma any (p : Reader α) : p.Yields fun _ => True := fun _ _ _ _ => trivial

lemma bind (hp : p.Yields P) (hf : ∀ a, P a → (f a).Yields Q) : (p >>= f).Yields Q := by
  intro s b u h
  obtain ⟨a, t, ha, hb⟩ := bind_ok.mp h
  exact hf a (hp s a t ha) t b u hb

lemma andThen (hf : ∀ a, (f a).Yields Q) : (p >>= f).Yields Q := (any p).bind fun a _ => hf a

lemma pure {b : β} (h : Q b) : (Pure.pure b : Reader β).Yields Q := by
  intro s c t hc
  obtain ⟨rfl, _⟩ := pure_ok.mp hc
  exact h

lemma map (hp : p.Yields P) (hg : ∀ a, P a → Q (g a)) : (g <$> p).Yields Q := by
  intro s b t h
  obtain ⟨a, ha, rfl⟩ := map_ok.mp h
  exact hg a (hp s a t ha)

lemma firstOf (h : ∀ p ∈ ps, p.Yields P) : (firstOf ps).Yields P := by
  intro s a t ha
  obtain ⟨p, hp, hok⟩ := mem_of_firstOf_ok ha
  exact h p hp s a t hok

lemma optional (h : p.Yields P) : p.optional.Yields fun x => ∀ a ∈ x, P a := by
  intro s x t hx a ha
  rcases optional_ok hx with ⟨rfl, _⟩ | ⟨b, rfl, hb⟩
  · cases ha
  · cases ha
    exact h s a t hb

lemma many (h : p.Yields P) : Yields (many p) fun as => ∀ a ∈ as, P a := by
  intro s as u hm
  induction as generalizing s with
  | nil => simp
  | cons a as ih =>
    rcases many_ok hm with ⟨he, _⟩ | ⟨b, more, t, he, hb, _, hmore⟩
    · cases he
    · cases he
      exact List.forall_mem_cons.mpr ⟨h s a t hb, ih t hmore⟩

lemma separatedBy {separator : Reader β} (h : p.Yields P) :
    (p.separatedBy separator).Yields fun as => ∀ a ∈ as, P a := by
  intro s as u hs
  rcases separatedBy_ok hs with ⟨rfl, _⟩ | ⟨a, more, t, rfl, ha, hmore⟩
  · simp
  · have hrest := many (andThen (p := separator) fun _ => h) t more u hmore
    exact List.forall_mem_cons.mpr ⟨h s a t ha, hrest⟩

lemma commit (h : p.Yields P) : p.commit.Yields P :=
  fun s a t ha => h s a t (commit_ok.mp ha)

lemma expecting {what : Expectation} (h : p.Yields P) : (p.expecting what).Yields P :=
  fun s a t ha => h s a t (expecting_ok.mp ha)

lemma fail : (Reader.fail : Reader α).Yields P := by
  rintro s a t ⟨⟩

end Reader.Yields

end Antecedent.Source

namespace Antecedent

def Operator.simple : List Operator := [.eq, .notEq, .ne, .gt, .gte, .lt, .lte]

inductive Operand.Follows : Operator → Operand → Prop
  | value {op : Operator} (v : Value) : op ∈ Operator.simple → Follows op (.value v)
  | reference {op : Operator} (name : String) : op ∈ Operator.simple →
      Follows op (.refs [.named name])
  | nested {op : Operator} (path : Path) : op ∈ Operator.simple →
      Follows op (.nested ⟨path, Option.none, Option.none, .none⟩)
  | pattern (source : String) : Follows .matching (.pattern source)
  | range (low high : Value) : Follows .between (.range low high)
  | references (low high : String) : Follows .between (.refs [.named low, .named high])
  | type (name : String) : Follows .isA (.type name)

inductive PropertyTest.Written : PropertyTest → Prop
  | bare (path : Path) (name : Option String) :
      Written ⟨path, name.map .named, none, .none⟩
  | compared (path : Path) (name : Option String) {op : Operator} {operand : Operand} :
      operand.Follows op → Written ⟨path, name.map .named, some op, operand⟩

def Clause.Written (c : Clause) : Prop :=
  ∃ (modifiers : List Modifier) (target : Option String) (name : Option String)
    (block : Option (List PropertyTest)),
    c.tokens = inOrder modifiers target (name.map .named) (block.map (·.map .property)) ∧
      ∀ ts ∈ block, ∀ t ∈ ts, t.Written

namespace Source

lemma tagName_yields : tagName.Yields fun tag => ∃ name, tag = .named name :=
  (Reader.Yields.any identifier).map fun name _ => ⟨name, rfl⟩

lemma tagReference_yields : tagReference.Yields fun tag => ∃ name, tag = .named name :=
  .andThen fun _ => tagName_yields.commit

lemma optionalTag_yields {p : Reader Tag} (h : p.Yields fun tag => ∃ name, tag = .named name) :
    p.optional.Yields fun tag => ∃ name : Option String, tag = name.map .named := by
  intro s tag t ht
  have hnamed := h.optional s tag t ht
  cases tag with
  | none => exact ⟨none, rfl⟩
  | some tag =>
    obtain ⟨name, rfl⟩ := hnamed tag rfl
    exact ⟨some name, rfl⟩

lemma betweenOperand_yields : betweenOperand.Yields (Operand.Follows .between) := by
  refine .andThen fun _ => .expecting (.firstOf ?_)
  simp only [List.forall_mem_cons]
  refine ⟨?_, ?_, by simp⟩
  · refine tagReference_yields.bind ?_
    rintro _ ⟨low, rfl⟩
    refine .andThen fun _ => .andThen fun _ => .andThen fun _ => tagReference_yields.commit.bind ?_
    rintro _ ⟨high, rfl⟩
    exact .pure (.references low high)
  · refine .andThen fun low => .andThen fun _ => .andThen fun _ => .andThen fun high => ?_
    exact .pure (.range low high)

lemma simpleOperand_yields {op : Operator} (h : op ∈ Operator.simple) :
    (Reader.firstOf
      [ (do let tag ← tagReference; return Operand.refs [tag]),
        Operand.value <$> value,
        (do let p ← path; return .nested ⟨p, none, none, .none⟩) ]).Yields
      (Operand.Follows op) := by
  refine .firstOf ?_
  simp only [List.forall_mem_cons]
  refine ⟨?_, ?_, ?_, by simp⟩
  · refine tagReference_yields.bind ?_
    rintro _ ⟨name, rfl⟩
    exact .pure (.reference name h)
  · exact (Reader.Yields.any value).map fun v _ => .value v h
  · exact .andThen fun p => .pure (.nested p h)

lemma operandOf_yields (op : Operator) : (operandOf op).Yields (Operand.Follows op) := by
  refine .andThen fun _ => ?_
  cases op with
  | matching => exact ((Reader.Yields.any _).map fun source _ => .pattern source).expecting
  | between => exact betweenOperand_yields
  | isA => exact ((Reader.Yields.any _).map fun name _ => .type name).expecting
  | _ => exact (simpleOperand_yields (by decide)).expecting

lemma propertyTest_yields : propertyTest.Yields PropertyTest.Written := by
  refine .andThen fun _ => .andThen fun path => (optionalTag_yields ?_).bind ?_
  · exact .andThen fun _ => .andThen fun _ => .andThen fun _ => .andThen fun _ =>
      tagName_yields.commit
  rintro _ ⟨name, rfl⟩
  refine .andThen fun op => ?_
  cases op with
  | none => exact .pure (.bare path name)
  | some op =>
    exact (operandOf_yields op).commit.bind fun operand ho => .pure (.compared path name ho)

lemma testBlock_yields : testBlock.Yields fun block =>
    ∃ ts : List PropertyTest, block = ts.map .property ∧ ∀ t ∈ ts, t.Written := by
  refine .andThen fun _ => .andThen fun _ => propertyTest_yields.separatedBy.bind fun ts hts => ?_
  exact .andThen fun _ => .andThen fun _ => .andThen fun _ => .pure ⟨ts, rfl, hts⟩

lemma clause_yields : clause.Yields Clause.Written := by
  refine .andThen fun _ => .andThen fun modifiers => .andThen fun target =>
    (optionalTag_yields ?_).bind ?_
  · exact .andThen fun _ => .andThen fun _ => tagName_yields.commit
  rintro _ ⟨name, rfl⟩
  refine Reader.Yields.bind (.optional (.andThen fun _ => .andThen fun _ =>
    testBlock_yields.commit)) fun block hblock => ?_
  obtain ⟨tests, rfl, htests⟩ : ∃ tests : Option (List PropertyTest),
      block = tests.map (·.map .property) ∧ ∀ ts ∈ tests, ∀ t ∈ ts, t.Written := by
    cases block with
    | none => exact ⟨none, rfl, by simp⟩
    | some block =>
      obtain ⟨ts, rfl, hts⟩ := hblock block rfl
      exact ⟨some ts, rfl, by simpa using hts⟩
  dsimp only
  split
  · exact .fail
  · refine .pure ⟨modifiers, target, name, tests, ?_, htests⟩
    simp [inOrder]

section Groups

variable {p : Reader Condition} (hp : p.Yields (Condition.Built Clause.Written))

lemma grouped_built {k : Connective} {first : Condition} {more : List Condition}
    (hf : first.Built Clause.Written) (hm : ∀ c ∈ more, c.Built Clause.Written) :
    (grouped k first more).Built Clause.Written := by
  rw [grouped]
  split
  · exact hf
  · next hne =>
    refine .group ?_ (List.forall_mem_cons.mpr ⟨hf, hm⟩)
    have hpos : 0 < more.length := List.length_pos_iff.mpr (by simpa using hne)
    simp only [List.length_cons]
    omega

include hp

lemma primary_yields : (primary p).Yields (Condition.Built Clause.Written) := by
  refine .andThen fun _ => .expecting (.firstOf ?_)
  simp only [List.forall_mem_cons]
  refine ⟨?_, ?_, by simp⟩
  · exact .andThen fun _ => hp.bind fun c hc => .andThen fun _ => .andThen fun _ => .pure hc
  · exact clause_yields.map fun c hc => .clause hc

lemma chain_yields (k : Connective) : (chain k p).Yields (Condition.Built Clause.Written) := by
  refine hp.bind fun first hf => ?_
  refine Reader.Yields.bind (.many (.andThen fun _ => hp.commit)) fun more hm => ?_
  exact .pure (grouped_built hf hm)

lemma disjunction_yields : (disjunction p).Yields (Condition.Built Clause.Written) :=
  chain_yields (chain_yields (primary_yields hp) .and) .or

end Groups

lemma conditionWithin_yields (depth : Nat) :
    (conditionWithin depth).Yields (Condition.Built Clause.Written) := by
  induction depth with
  | zero =>
    rintro s c t ⟨⟩
  | succ depth ih => exact .andThen fun _ => disjunction_yields ih

lemma condition_yields : condition.Yields (Condition.Built Clause.Written) :=
  fun s c t h => conditionWithin_yields (s.length + 1) s c t h

lemma topConditions_built {c : Condition} (h : c.Built Clause.Written) :
    topConditions c ≠ [] ∧ ∀ d ∈ topConditions c, d.Built Clause.Written := by
  cases h with
  | clause hc => exact ⟨by simp [topConditions], by simpa [topConditions] using .clause hc⟩
  | @group k members hl hm =>
    cases k with
    | or => exact ⟨by simp [topConditions], by simpa [topConditions] using .group hl hm⟩
    | and =>
      refine ⟨?_, hm⟩
      rintro he
      rw [topConditions] at he
      simp [he] at hl

lemma definition_yields : definition.Yields fun d =>
    d.conditions ≠ [] ∧ ∀ c ∈ d.conditions, c.Built Clause.Written := by
  refine .andThen fun _ => .andThen fun _ => .andThen fun _ => .andThen fun name =>
    .andThen fun priority => .andThen fun _ => .andThen fun _ => ?_
  exact condition_yields.commit.expecting.bind fun body hb => .pure (topConditions_built hb)

lemma parse_yields {text : String} {ds : List Definition} (h : parse text = .ok ds) {d : Definition}
    (hd : d ∈ ds) : d.conditions ≠ [] ∧ ∀ c ∈ d.conditions, c.Built Clause.Written := by
  have hall : document.Yields fun ds => ∀ d ∈ ds,
      d.conditions ≠ [] ∧ ∀ c ∈ d.conditions, c.Built Clause.Written :=
    Reader.Yields.bind (definition_yields.many.bind fun _ hds => .andThen fun _ => .pure hds)
      fun _ hds => .andThen fun _ => .pure hds
  rw [parse] at h
  split at h
  · next ds' rest hdoc =>
    cases h
    exact hall _ _ _ hdoc d hd
  · cases h

end Source

end Antecedent
