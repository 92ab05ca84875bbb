import Antecedent.Proofs.Source.Tails

/-! Reading comes to an end. Every reader of the grammar leaves a tail of the text, those that are
tried again leave a shorter one, and conditions nest no deeper than the parentheses of the text. -/

namespace Antecedent.Source

variable {α β : Type} {n : Nat} {s t : List Char}

section Tests

lemma operator_advances : operator.Advances n := by
  have hsymbol (word : String) (op : Operator) :
      Reader.Advances n (do Reader.literal word; return op) :=
    (Reader.Advances.literal word).bind fun _ => .pure op
  have hword (word : String) (op : Operator) : Reader.Advances n (do keyword word; return op) :=
    (keyword_advances word).bind fun _ => .pure op
  refine layout_advances.bind fun _ => .firstOf ?_
  simp only [List.forall_mem_cons]
  exact ⟨(keyword_advances _).bind fun _ => layout_advances.bind fun _ => hsymbol _ _,
    hsymbol _ _, hsymbol _ _, hsymbol _ _, hsymbol _ _, hsymbol _ _, hsymbol _ _, hsymbol _ _,
    hword _ _, hword _ _, by simp⟩

lemma betweenOperand_advances : betweenOperand.Advances n := by
  refine layout_advances.bind fun _ => .expecting (.firstOf ?_) _
  simp only [List.forall_mem_cons]
  refine ⟨?_, ?_, by simp⟩
  · refine tagReference_advances.bind fun low => layout_advances.bind fun _ => ?_
    refine (keyword_advances _).bind fun _ => layout_advances.bind fun _ => ?_
    exact tagReference_advances.commit.bind fun high => .pure _
  · refine value_advances.bind fun low => layout_advances.bind fun _ => ?_
    exact (keyword_advances _).bind fun _ => value_advances.commit.bind fun high => .pure _

lemma operandOf_advances (op : Operator) : (operandOf op).Advances n := by
  refine layout_advances.bind fun _ => ?_
  cases op with
  | matching => exact (stringLiteral_advances.map _).expecting _
  | between => exact betweenOperand_advances
  | isA => exact (typeName_advances.map _).expecting _
  | _ =>
    refine .expecting (.firstOf ?_) _
    simp only [List.forall_mem_cons]
    exact ⟨tagReference_advances.bind fun _ => .pure _, value_advances.map _,
      path_advances.bind fun _ => .pure _, by simp⟩

lemma testTag_advances : testTag.Advances n := by
  refine layout_advances.bind fun _ => (keyword_advances _).bind fun _ => ?_
  exact layout_advances.bind fun _ => (Reader.Advances.literal _).bind fun _ =>
    tagName_advances.commit

lemma testEnd_advances (p : Path) : Reader.Advances n (do
    let tag ← Reader.optional testTag
    match ← Reader.optional operator with
    | some op =>
      let operand ← Reader.commit (operandOf op)
      return ⟨p, tag, some op, operand⟩
    | none => return ⟨p, tag, none, .none⟩ : Reader PropertyTest) := by
  refine testTag_advances.optional.bind fun tag => operator_advances.optional.bind fun op => ?_
  cases op with
  | none => exact .pure _
  | some op => exact (operandOf_advances op).commit.bind fun _ => .pure _

lemma propertyTest_advances : propertyTest.Advances n :=
  layout_advances.bind fun _ => (path_advances.expecting _).bind fun p => testEnd_advances p

lemma propertyTest_consumes : propertyTest.Consumes :=
  .andThen layout_advances fun _ => (path_consumes.expecting _).bind fun p => testEnd_advances p

lemma comma_advances : comma.Advances n :=
  layout_advances.bind fun _ => .literal ","

lemma separated_advances : Reader.Advances n (propertyTest.separatedBy comma) := by
  have hmore := (comma_advances.bind fun _ => propertyTest_advances (n := n)).many
    (.andThen comma_advances fun _ => propertyTest_consumes)
  refine propertyTest_advances.optional.bind fun first => ?_
  cases first with
  | none => exact .pure _
  | some t => exact hmore.bind fun _ => .pure _

lemma testBlock_advances : testBlock.Advances n := by
  refine layout_advances.bind fun _ => (Reader.Advances.literal _).bind fun _ => ?_
  refine separated_advances.bind fun tests => comma_advances.optional.bind fun _ => ?_
  exact layout_advances.bind fun _ => (Reader.Advances.literal _).bind fun _ => .pure _

end Tests

section Clauses

lemma modifier_advances : modifier.Advances n := by
  apply Reader.Advances.firstOf
  simp only [List.forall_mem_cons]
  exact ⟨(keyword_advances _).bind fun _ => .pure _, (keyword_advances _).bind fun _ => .pure _,
    (keyword_advances _).bind fun _ => .pure _, (keyword_advances _).bind fun _ => .pure _, by simp⟩

lemma modifier_consumes : modifier.Consumes := by
  have hword {word : String} (hw : word.toList ≠ []) (m : Modifier) :
      Reader.Consumes (do keyword word; return m) :=
    (keyword_consumes hw).bind fun _ => .pure m
  apply Reader.Consumes.firstOf
  simp only [List.forall_mem_cons]
  exact ⟨hword (by decide) _, hword (by decide) _, hword (by decide) _, hword (by decide) _,
    by simp⟩

lemma modifierGap_advances : Reader.Advances n (do let m ← modifier; layout; return m) :=
  modifier_advances.bind fun m => layout_advances.bind fun _ => .pure m

lemma modifierGap_consumes : Reader.Consumes (do let m ← modifier; layout; return m) :=
  modifier_consumes.bind fun m => layout_advances.bind fun _ => .pure m

lemma clauseTag_advances : clauseTag.Advances n :=
  layout_advances.bind fun _ => (Reader.Advances.literal _).bind fun _ => tagName_advances.commit

lemma clauseTag_consumes : clauseTag.Consumes :=
  .andThen layout_advances fun _ =>
    (Reader.Consumes.literal (by decide)).bind fun _ => tagName_advances.commit

lemma clauseTests_advances : clauseTests.Advances n :=
  layout_advances.bind fun _ => (keyword_advances _).bind fun _ => testBlock_advances.commit

lemma clauseTests_consumes : clauseTests.Consumes :=
  .andThen layout_advances fun _ =>
    (keyword_consumes (by decide)).bind fun _ => testBlock_advances.commit

lemma clause_advances : clause.Advances n := by
  refine layout_advances.bind fun _ => ?_
  refine (modifierGap_advances.many modifierGap_consumes).bind fun modifiers => ?_
  refine typeName_advances.optional.bind fun target => ?_
  refine clauseTag_advances.optional.bind fun tag => ?_
  refine clauseTests_advances.optional.bind fun tests => ?_
  dsimp only
  split
  · exact .fail
  · exact .pure _

lemma optional_consumes {p : Reader α} (hp : p.Consumes) {x : Option α}
    (h : p.optional s = .ok x t) : x = none ∨ t.length < s.length := by
  rcases Reader.optional_ok h with ⟨rfl, _, _⟩ | ⟨a, _, ha⟩
  · exact .inl rfl
  · exact .inr (hp ha)

lemma many_consumes {p : Reader α} (hp : p.Advances 0) (hc : p.Consumes) {as : List α}
    (h : Reader.many p s = .ok as t) : as = [] ∨ t.length < s.length := by
  rcases Reader.many_ok h with ⟨rfl, _, _⟩ | ⟨a, more, u, rfl, ha, hlt, hmore⟩
  · exact .inl rfl
  · exact .inr (Nat.lt_of_le_of_lt ((hp.many hc).suffix hmore).length_le hlt)

lemma clause_consumes : clause.Consumes := by
  intro s c t h
  obtain ⟨_, s₀, hlayout, h⟩ := Reader.bind_ok.mp h
  obtain ⟨modifiers, s₁, hmodifiers, h⟩ := Reader.bind_ok.mp h
  obtain ⟨target, s₂, htarget, h⟩ := Reader.bind_ok.mp h
  obtain ⟨tag, s₃, htag, h⟩ := Reader.bind_ok.mp h
  obtain ⟨tests, s₄, htests, h⟩ := Reader.bind_ok.mp h
  split at h
  · cases h
  · next hpresent =>
    obtain ⟨_, rfl⟩ := Reader.pure_ok.mp h
    have hle₀ := (layout_advances (n := 0).suffix hlayout).length_le
    have hle₁ := ((modifierGap_advances (n := 0).many modifierGap_consumes).suffix
      hmodifiers).length_le
    have hle₂ := (typeName_advances (n := 0).optional.suffix htarget).length_le
    have hle₃ := (clauseTag_advances (n := 0).optional.suffix htag).length_le
    have hle₄ := (clauseTests_advances (n := 0).optional.suffix htests).length_le
    -- Not all parts are missing, so one of these steps was a real one.
    apply Nat.lt_of_not_le
    intro hle
    obtain rfl : modifiers = [] :=
      (many_consumes modifierGap_advances modifierGap_consumes hmodifiers).resolve_right (by omega)
    obtain rfl : target = none :=
      (optional_consumes typeName_consumes htarget).resolve_right (by omega)
    obtain rfl : tag = none := (optional_consumes clauseTag_consumes htag).resolve_right (by omega)
    obtain rfl : tests = none :=
      (optional_consumes clauseTests_consumes htests).resolve_right (by omega)
    exact hpresent rfl

end Clauses

section Nesting

lemma Reader.Advances.mono {m : Nat} {p : Reader α} (hp : p.Advances n) (hm : m ≤ n) :
    p.Advances m := by
  intro s
  have hs := hp s
  cases hr : p s with
  | ok a t => rwa [hr] at hs
  | fail e =>
    rw [hr] at hs
    exact ⟨hs.1, fun hlt => hs.2 (Nat.lt_of_lt_of_le hlt hm)⟩

lemma Reply.Trails.of_open {r : Reply α} (h : r.Trails n t) : r.Trails (n + 1) ('(' :: t) := by
  cases r with
  | ok a u => exact List.IsSuffix.trans h (List.suffix_cons '(' t)
  | fail e =>
    refine ⟨h.1.trans (List.suffix_cons '(' t), ?_⟩
    intro hn
    rw [List.count_cons_self] at hn
    exact h.2 (Nat.lt_of_succ_lt_succ hn)

lemma open_advances {p : Reader α} (hp : p.Advances n) :
    Reader.Advances (n + 1) (do Reader.literal "("; p) := by
  intro s
  rcases Reader.literal_cases "(" s with ⟨t, rfl⟩ | hd
  · rw [Reader.bind_of_ok (Reader.literal_of_append "(" t)]
    exact (hp t).of_open
  · have hs := Reader.Advances.literal (n := n + 1) "(" s
    obtain ⟨expected, rest, hd⟩ := hd
    rw [Reader.bind_apply, hd]
    rwa [hd] at hs

variable {p q : Reader Condition}

lemma primary_advances (hp : p.Advances n) : (primary p).Advances (n + 1) := by
  refine layout_advances.bind fun _ => .expecting (.firstOf ?_) _
  simp only [List.forall_mem_cons]
  refine ⟨open_advances ?_, clause_advances.map _, by simp⟩
  refine hp.bind fun c => layout_advances.bind fun _ => ?_
  exact (Reader.Advances.literal _).commit.bind fun _ => .pure c

lemma primary_consumes (hp : p.Advances 0) : (primary p).Consumes := by
  refine .andThen layout_advances fun _ => .expecting (.firstOf ?_) _
  simp only [List.forall_mem_cons]
  refine ⟨?_, clause_consumes.map _, by simp⟩
  refine (Reader.Consumes.literal (by decide)).bind fun _ => hp.bind fun c => ?_
  exact layout_advances.bind fun _ => (Reader.Advances.literal _).commit.bind fun _ => .pure c

lemma connective_advances (k : Connective) : (connective k).Advances n := by
  refine layout_advances.bind fun _ => .firstOf ?_
  intro p hp
  obtain ⟨word, _, rfl⟩ := List.mem_map.mp hp
  exact keyword_advances word

lemma tail_advances (k : Connective) (hp : p.Advances n) :
    Reader.Advances n (do connective k; Reader.commit p) :=
  (connective_advances k).bind fun _ => hp.commit

lemma tail_consumes (k : Connective) (hp : p.Consumes) :
    Reader.Consumes (do connective k; Reader.commit p) :=
  .andThen (connective_advances k) fun _ => hp.commit

lemma chain_advances (k : Connective) (hp : p.Advances n) (hc : p.Consumes) :
    (chain k p).Advances n :=
  hp.bind fun _ => ((tail_advances k hp).many (tail_consumes k hc)).bind fun _ => .pure _

lemma chain_consumes (k : Connective) (hp : p.Advances 0) (hc : p.Consumes) :
    (chain k p).Consumes :=
  hc.bind fun _ => ((tail_advances k hp).many (tail_consumes k hc)).bind fun _ => .pure _

lemma disjunction_advances (hp : p.Advances n) : (disjunction p).Advances (n + 1) := by
  have hc := primary_consumes (hp.mono (Nat.zero_le n))
  have hprimary := primary_advances hp
  have hchain := chain_advances .and hprimary hc
  exact chain_advances .or hchain (chain_consumes .and (hprimary.mono (Nat.zero_le _)) hc)

lemma disjunction_consumes (hp : p.Advances 0) : (disjunction p).Consumes := by
  have hc := primary_consumes hp
  have hprimary := (primary_advances hp).mono (Nat.zero_le 1)
  exact chain_consumes .or (chain_advances .and hprimary hc) (chain_consumes .and hprimary hc)

lemma conditionWithin_advances (depth : Nat) : (conditionWithin depth).Advances depth := by
  induction depth with
  | zero => exact fun s => ⟨List.suffix_refl s, fun hlt => (Nat.not_lt_zero _ hlt).elim⟩
  | succ depth ih => exact layout_advances.bind fun _ => disjunction_advances ih

lemma condition_advances : condition.Advances n := by
  intro s
  have hs := conditionWithin_advances (s.length + 1) s
  change (conditionWithin (s.length + 1) s).Trails n s
  cases hr : conditionWithin (s.length + 1) s with
  | ok c t => rwa [hr] at hs
  | fail e =>
    rw [hr] at hs
    exact ⟨hs.1, fun _ => hs.2 (Nat.lt_succ_of_le List.count_le_length)⟩

/-- On texts with fewer than `n` opening parentheses the readers reply the same. -/
def Reader.AgreesWithin (n : Nat) (p q : Reader α) : Prop := ∀ s, s.count '(' < n → p s = q s

namespace Reader.AgreesWithin

variable {p q p' q' : Reader α} {f g : α → Reader β}

lemma refl (p : Reader α) : AgreesWithin n p p := fun _ _ => rfl

lemma bind (hp : p.Advances 0) (h : AgreesWithin n p q) (hf : ∀ a, AgreesWithin n (f a) (g a)) :
    AgreesWithin n (p >>= f) (q >>= g) := by
  intro s hs
  rw [bind_apply, bind_apply, ← h s hs]
  cases hr : p s with
  | ok a t => exact hf a t (Nat.lt_of_le_of_lt ((hp.suffix hr).sublist.count_le '(') hs)
  | fail e => rfl

lemma orElse (h : AgreesWithin n p q) (h' : AgreesWithin n p' q') :
    AgreesWithin n (p.orElse p') (q.orElse q') := by
  intro s hs
  rw [Reader.orElse, Reader.orElse, h s hs, h' s hs]

lemma expecting (h : AgreesWithin n p q) (what : Expectation) :
    AgreesWithin n (p.expecting what) (q.expecting what) := by
  intro s hs
  rw [Reader.expecting, Reader.expecting, h s hs]

lemma commit (h : AgreesWithin n p q) : AgreesWithin n p.commit q.commit := by
  intro s hs
  rw [Reader.commit, Reader.commit, h s hs]

lemma many (hp : p.Advances 0) (h : AgreesWithin n p q) :
    AgreesWithin n (Reader.many p) (Reader.many q) := by
  intro s hs
  induction hl : s.length using Nat.strongRecOn generalizing s with
  | ind l ih =>
    subst hl
    rw [Reader.many, Reader.many, ← h s hs]
    cases hr : p s with
    | fail e => rfl
    | ok a t =>
      dsimp only
      split
      · next hlt =>
        have ht : t.count '(' < n := Nat.lt_of_le_of_lt ((hp.suffix hr).sublist.count_le '(') hs
        rw [ih t.length hlt t ht rfl]
      · rfl

end Reader.AgreesWithin

lemma open_agrees {p q : Reader α} (h : Reader.AgreesWithin n p q) :
    Reader.AgreesWithin (n + 1) (do Reader.literal "("; p) (do Reader.literal "("; q) := by
  intro s hs
  rcases Reader.literal_cases "(" s with ⟨t, rfl⟩ | ⟨expected, rest, hd⟩
  · rw [Reader.bind_of_ok (Reader.literal_of_append "(" t),
      Reader.bind_of_ok (Reader.literal_of_append "(" t)]
    apply h
    exact Nat.lt_of_succ_lt_succ (by simpa using hs)
  · rw [Reader.bind_apply, Reader.bind_apply, hd]

section Agreement

variable (hp : p.Advances 0)
include hp

lemma primary_agrees (h : Reader.AgreesWithin n p q) :
    Reader.AgreesWithin (n + 1) (primary p) (primary q) := by
  refine .bind layout_advances (.refl _) fun _ => .expecting (.orElse (open_agrees ?_) (.refl _)) _
  exact .bind hp h fun c => .refl _

lemma chain_agrees (k : Connective) (hc : p.Consumes) (h : Reader.AgreesWithin n p q) :
    Reader.AgreesWithin n (chain k p) (chain k q) := by
  have hmany := (tail_advances k hp).many (tail_consumes k hc)
  refine .bind hp h fun first => .bind hmany (.many (tail_advances k hp) ?_) fun more => .refl _
  exact .bind (connective_advances k) (.refl _) fun _ => h.commit

lemma disjunction_agrees (h : Reader.AgreesWithin n p q) :
    Reader.AgreesWithin (n + 1) (disjunction p) (disjunction q) := by
  have hc := primary_consumes hp
  have hprimary := (primary_advances hp).mono (Nat.zero_le 1)
  have hchain := chain_agrees hprimary .and hc (primary_agrees hp h)
  exact chain_agrees (chain_advances .and hprimary hc) .or (chain_consumes .and hprimary hc) hchain

end Agreement

lemma conditionWithin_agrees {depth depth' : Nat} (h : n ≤ depth) (h' : n ≤ depth') :
    Reader.AgreesWithin n (conditionWithin depth) (conditionWithin depth') := by
  induction n generalizing depth depth' with
  | zero => exact fun _ hlt => (Nat.not_lt_zero _ hlt).elim
  | succ n ih =>
    obtain ⟨depth, rfl⟩ := Nat.exists_eq_add_of_le' h
    obtain ⟨depth', rfl⟩ := Nat.exists_eq_add_of_le' h'
    have hp := (conditionWithin_advances (depth + n)).mono (Nat.zero_le _)
    refine .bind layout_advances (.refl _) fun _ => disjunction_agrees hp ?_
    exact ih (Nat.le_add_left n depth) (Nat.le_add_left n depth')

lemma conditionWithin_eq {depth : Nat} (h : s.count '(' < depth) :
    conditionWithin depth s = condition s := by
  have hlength : s.count '(' + 1 ≤ s.length + 1 := Nat.succ_le_succ List.count_le_length
  exact conditionWithin_agrees (Nat.succ_le_of_lt h) hlength s (Nat.lt_succ_self _)

lemma condition_eq : condition = (do layout; disjunction condition) := by
  funext s
  have hp := (conditionWithin_advances s.length).mono (Nat.zero_le _)
  have hagrees : Reader.AgreesWithin s.length (conditionWithin s.length) condition :=
    fun t ht => conditionWithin_eq ht
  have hbody : Reader.AgreesWithin (s.length + 1) (conditionWithin (s.length + 1))
      (do layout; disjunction condition) :=
    .bind layout_advances (.refl _) fun _ => disjunction_agrees hp hagrees
  exact hbody s (Nat.lt_succ_of_le List.count_le_length)

lemma condition_consumes : condition.Consumes := by
  rw [condition_eq]
  exact .andThen layout_advances fun _ => disjunction_consumes condition_advances

end Nesting

section Rules

lemma priority_advances : priority.Advances n := by
  refine layout_advances.bind fun _ => (Reader.Advances.literal _).bind fun _ => ?_
  refine layout_advances.bind fun _ => (Reader.Advances.literal _).bind fun _ => ?_
  refine layout_advances.bind fun _ => integer_advances.commit.bind fun i => ?_
  refine layout_advances.bind fun _ => (Reader.Advances.literal _).commit.bind fun _ => ?_
  split
  · exact .pure _
  · exact .abort

lemma afterRule_advances : afterRule.Advances n := by
  refine layout_advances.bind fun _ => (identifier_advances.commit.expecting _).bind fun name => ?_
  refine priority_advances.optional.bind fun p => layout_advances.bind fun _ => ?_
  refine (Reader.Advances.literal _).commit.bind fun _ => ?_
  exact (condition_advances.commit.expecting _).bind fun body => .pure _

lemma definition_advances : definition.Advances n :=
  layout_advances.bind fun _ => (keyword_advances _).bind fun _ => afterRule_advances

lemma definition_consumes : definition.Consumes :=
  .andThen layout_advances fun _ =>
    (keyword_consumes (by decide)).bind fun _ => afterRule_advances

lemma definitions_advances : definitions.Advances n :=
  (definition_advances.many definition_consumes).bind fun _ => layout_advances.bind fun _ => .pure _

lemma endOfText_advances : endOfText.Advances n := by
  intro s
  rw [endOfText]
  split
  · exact List.nil_suffix
  · exact ⟨List.suffix_refl s, by simp⟩

lemma document_advances : document.Advances n :=
  definitions_advances.bind fun _ => endOfText_advances.bind fun _ => .pure _

end Rules

/-- The readers that a repetition tries again and those that a parenthesis leads back to. -/
inductive Recurring : {α : Type} → Reader α → Prop
  | blanks : Recurring blanks
  | comment : Recurring comment
  | segment : Recurring (do Reader.literal "."; identifier)
  | modifier : Recurring modifier
  | modifierGap : Recurring (do let m ← modifier; layout; return m)
  | propertyTest : Recurring propertyTest
  | nextTest : Recurring (do let _ ← comma; propertyTest)
  | clause : Recurring clause
  | primary : Recurring (primary condition)
  | nextPrimary : Recurring (do connective .and; Reader.commit (Source.primary condition))
  | conjunction : Recurring (chain .and (Source.primary condition))
  | nextConjunction :
      Recurring (do connective .or; Reader.commit (chain .and (Source.primary condition)))
  | disjunction : Recurring (disjunction condition)
  | condition : Recurring condition
  | definition : Recurring definition

inductive Production : {α : Type} → Reader α → Prop
  | recurring {α : Type} {p : Reader α} : Recurring p → Production p
  | layout : Production layout
  | identifier : Production identifier
  | path : Production path
  | keyword (word : String) : Production (keyword word)
  | typeName : Production typeName
  | tagName : Production tagName
  | stringLiteral : Production stringLiteral
  | negativeNumber : Production negativeNumber
  | decimalFraction : Production decimalFraction
  | integer : Production integer
  | value : Production value
  | tagReference : Production tagReference
  | operator : Production operator
  | betweenOperand : Production betweenOperand
  | operandOf (op : Operator) : Production (operandOf op)
  | testTag : Production testTag
  | comma : Production comma
  | testBlock : Production testBlock
  | clauseTag : Production clauseTag
  | clauseTests : Production clauseTests
  | connective (k : Connective) : Production (connective k)
  | priority : Production priority
  | definitions : Production definitions
  | endOfText : Production endOfText
  | document : Production document

section Parts

variable {p : Reader α}

lemma primaryCondition_consumes : (primary condition).Consumes :=
  primary_consumes condition_advances

lemma primaryCondition_advances : (primary condition).Advances n :=
  (primary_advances (condition_advances (n := n))).mono (Nat.le_succ n)

lemma Recurring.advances (h : Recurring p) : p.Advances n := by
  cases h with
  | blanks => exact blanks_advances
  | comment => exact comment_advances
  | segment => exact segment_advances
  | modifier => exact modifier_advances
  | modifierGap => exact modifierGap_advances
  | propertyTest => exact propertyTest_advances
  | nextTest => exact comma_advances.bind fun _ => propertyTest_advances
  | clause => exact clause_advances
  | primary => exact primaryCondition_advances
  | nextPrimary => exact tail_advances .and primaryCondition_advances
  | conjunction => exact chain_advances .and primaryCondition_advances primaryCondition_consumes
  | nextConjunction =>
    apply tail_advances .or
    exact chain_advances .and primaryCondition_advances primaryCondition_consumes
  | disjunction => exact (disjunction_advances (condition_advances (n := n))).mono (Nat.le_succ n)
  | condition => exact condition_advances
  | definition => exact definition_advances

lemma Recurring.consumes (h : Recurring p) : p.Consumes := by
  cases h with
  | blanks => exact blanks_consumes
  | comment => exact comment_consumes
  | segment => exact segment_consumes
  | modifier => exact modifier_consumes
  | modifierGap => exact modifierGap_consumes
  | propertyTest => exact propertyTest_consumes
  | nextTest => exact .andThen comma_advances fun _ => propertyTest_consumes
  | clause => exact clause_consumes
  | primary => exact primaryCondition_consumes
  | nextPrimary => exact tail_consumes .and primaryCondition_consumes
  | conjunction => exact chain_consumes .and primaryCondition_advances primaryCondition_consumes
  | nextConjunction =>
    apply tail_consumes .or
    exact chain_consumes .and primaryCondition_advances primaryCondition_consumes
  | disjunction => exact disjunction_consumes condition_advances
  | condition => exact condition_consumes
  | definition => exact definition_consumes

lemma Production.advances (h : Production p) : p.Advances n := by
  cases h with
  | recurring h => exact h.advances
  | layout => exact layout_advances
  | identifier => exact identifier_advances
  | path => exact path_advances
  | keyword word => exact keyword_advances word
  | typeName => exact typeName_advances
  | tagName => exact tagName_advances
  | stringLiteral => exact stringLiteral_advances
  | negativeNumber => exact negativeNumber_advances
  | decimalFraction => exact decimalFraction_advances
  | integer => exact integer_advances
  | value => exact value_advances
  | tagReference => exact tagReference_advances
  | operator => exact operator_advances
  | betweenOperand => exact betweenOperand_advances
  | operandOf op => exact operandOf_advances op
  | testTag => exact testTag_advances
  | comma => exact comma_advances
  | testBlock => exact testBlock_advances
  | clauseTag => exact clauseTag_advances
  | clauseTests => exact clauseTests_advances
  | connective k => exact connective_advances k
  | priority => exact priority_advances
  | definitions => exact definitions_advances
  | endOfText => exact endOfText_advances
  | document => exact document_advances

end Parts

theorem reading_progresses :
    (∀ {α : Type} {p : Reader α}, Production p →
      ∀ s, (p s).rest <:+ s ∧ (p s).severity? ≠ some .stalled) ∧
    (∀ {α : Type} {p : Reader α}, Recurring p →
      ∀ s a t, p s = .ok a t → t <:+ s ∧ t.length < s.length) ∧
    layout = (do let _ ← Reader.many (Reader.firstOf [blanks, comment])) ∧
    condition = (do layout; disjunction condition) ∧
    ∀ s depth, s.count '(' < depth → conditionWithin depth s = condition s := by
  refine ⟨?_, ?_, layout_eq, condition_eq, fun s depth => conditionWithin_eq⟩
  · intro α p hp s
    have hs : (p s).Trails (s.count '(' + 1) s := hp.advances s
    exact ⟨hs.rest_suffix, hs.not_stalled (Nat.lt_succ_self _)⟩
  · intro α p hp s a t ha
    exact ⟨(hp.advances (n := 0)).suffix ha, hp.consumes ha⟩

def doubled : List Char := "((A)) B".toList

theorem doubled_progresses : doubled.count '(' < 3 ∧
    conditionWithin 3 doubled = condition doubled ∧
    (condition doubled).severity? ≠ some .stalled ∧
    (conditionWithin 2 doubled).severity? = some .stalled ∧
    ∃ c, primary condition doubled = .ok c " B".toList ∧ " B".toList <:+ doubled ∧
      " B".toList.length < doubled.length := by
  obtain ⟨hproduction, hrecurring, _, _, hnested⟩ := reading_progresses
  have hcount : doubled.count '(' < 3 := by decide
  have hrest : (primary condition doubled).rest = " B".toList := by decide +kernel
  obtain ⟨c, hc⟩ := Reply.exists_ok (r := primary condition doubled) (by decide +kernel)
  rw [hrest] at hc
  exact ⟨hcount, hnested doubled 3 hcount, (hproduction (.recurring .condition) doubled).2,
    by decide +kernel, c, hc, hrecurring .primary doubled c _ hc⟩

end Antecedent.Source
