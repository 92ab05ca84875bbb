import Antecedent.Proofs.Source.Seams
import Antecedent.Source.Rules

/-! The whole grammar reads texts that differ by a seam alike. -/

namespace Antecedent.Source

open Reader (Carries Mirrors)

variable {α : Type} {R T : List Char → List Char → Prop} {s s' r : List Char} {c : Char}

def plainValue : Reader Value :=
  Reader.firstOf
    [ (do keyword "true"; return .bool true),
      (do keyword "false"; return .bool false),
      negativeNumber,
      decimalFraction,
      Value.int <$> integer ]

lemma value_eq : value = (do
    layout
    Reader.expecting .value ((Value.text <$> stringLiteral).orElse plainValue)) := rfl

lemma head_of_path_ok {p : Path} {t : List Char} (h : path s = .ok p t) :
    ∃ c r, s = c :: r ∧ isWordStart c = true := by
  obtain ⟨name, u, hname, _⟩ := Reader.bind_ok.mp h
  cases s with
  | nil => cases hname
  | cons c r =>
    refine ⟨c, r, rfl, ?_⟩
    cases hc : isWordStart c with
    | true => rfl
    | false => simp [identifier, hc] at hname

lemma comma_ok {t : List Char} : comma s = .ok () t ↔ skipLayout s = ',' :: t := by
  change Reader.literal "," (skipLayout s) = _ ↔ _
  exact Reader.literal_ok

def blockEnd (a : α) : Reader α := do
  let _ ← Reader.optional comma
  layout
  Reader.literal "\x7d"
  return a

lemma symbol_of_blockEnd {a b : α} {t : List Char} (h : blockEnd a s = .ok b t) :
    (∃ c r, skipLayout s = c :: r ∧ isInk c = true ∧ isWordStart c = false) ∧
      ∀ v, comma s = .ok () v → ∃ r, skipLayout v = '\x7d' :: r := by
  obtain ⟨x, u, hx, h⟩ := Reader.bind_ok.mp h
  obtain ⟨_, _, ⟨⟩, h⟩ := Reader.bind_ok.mp h
  obtain ⟨_, r, hbrace, _⟩ := Reader.bind_ok.mp h
  have hu : skipLayout u = '\x7d' :: r := Reader.literal_ok.mp hbrace
  rcases Reader.optional_ok hx with ⟨_, rfl, hd⟩ | ⟨_, _, hcomma⟩
  · refine ⟨⟨_, r, hu, rfl, rfl⟩, ?_⟩
    intro v hv
    exact (hd.not_ok hv).elim
  · refine ⟨⟨_, u, comma_ok.mp hcomma, rfl, rfl⟩, ?_⟩
    intro v hv
    rw [hcomma] at hv
    cases hv
    exact ⟨r, hu⟩

def afterRule : Reader Definition := do
  layout
  let name ← Reader.expecting .ruleName (Reader.commit identifier)
  let p ← Reader.optional priority
  layout
  Reader.commit (Reader.literal ":")
  let body ← Reader.expecting .ruleBody (Reader.commit condition)
  return ⟨name, p, topConditions body⟩

lemma definition_eq : definition = (do
    layout
    keyword "rule"
    afterRule) := rfl

namespace Seam

variable (seam : Seam R T)

include seam

section Values

lemma literal_return {word : String} (hw : isToken word = true) (a : α) :
    Mirrors R (do Reader.literal word; return a) (do Reader.literal word; return a) :=
  (seam.literal_mirrors hw).bind fun _ => .pure a

lemma keyword_return {word : String} (hw : isToken word = true) (a : α) :
    Mirrors R (do keyword word; return a) (do keyword word; return a) :=
  (seam.keyword_mirrors hw).bind fun _ => .pure a

lemma negativeNumber_mirrors : Mirrors R negativeNumber negativeNumber := by
  have hk : ∀ c, (Numeral.isDigit c || c == '.') = true → isPlain c = true := by
    intro c hc
    rcases Bool.or_eq_true_iff.mp hc with hd | hp
    · exact isPlain_of_isDigit hd
    · rw [beq_iff_eq.mp hp]
      rfl
  refine (seam.literal_mirrors (by decide)).bind fun _ => ?_
  refine (seam.charsOf_mirrors hk rfl).bind fun body => ?_
  split
  · cases Numeral.float? ('-' :: body) with
    | some x => exact .pure _
    | none => exact .abort
  · cases Numeral.int? ('-' :: body) with
    | some n => exact .pure _
    | none => exact .abort

lemma decimalFraction_mirrors : Mirrors R decimalFraction decimalFraction := by
  have hdigits := seam.charsOf_mirrors (fun _ => isPlain_of_isDigit) rfl
  refine hdigits.bind fun whole => (seam.literal_mirrors (by decide)).bind fun _ => ?_
  refine hdigits.bind fun fraction => ?_
  cases Numeral.float? (whole ++ '.' :: fraction) with
  | some x => exact .pure _
  | none => exact .fail

lemma plainValue_mirrors : Mirrors R plainValue plainValue := by
  apply Mirrors.firstOf
  simp only [List.forall_mem_cons]
  exact ⟨seam.keyword_return (by decide) _, seam.keyword_return (by decide) _,
    seam.negativeNumber_mirrors, seam.decimalFraction_mirrors, seam.integer_mirrors.map _, by simp⟩

lemma value_carries : Carries R value value := by
  rw [value_eq]
  refine seam.layout_mirrors.carries.bind fun _ => Carries.expecting ?_
  apply (seam.stringLiteral_carries.map _).orElse seam.plainValue_mirrors.carries
  intro s s' v t hs _ hplain
  apply Reader.Declines.map
  apply seam.stringLiteral_refuses hs
  -- No other value starts with a quote.
  rintro c hc rfl
  obtain ⟨r, rfl⟩ : ∃ r, s = '"' :: r := by
    cases s with
    | nil => cases hc
    | cons c r =>
      cases hc
      exact ⟨r, rfl⟩
  cases hplain

lemma value_refuses (hs : R s s') (hq : ∀ c ∈ (skipLayout s).head?, c ≠ '"')
    (hd : value.Declines s) : value.Declines s' := by
  have hskip := (seam.skip hs).related
  rw [value_eq] at hd ⊢
  rcases Reader.bind_declines.mp hd with ⟨_, _, ⟨⟩⟩ | ⟨_, _, ⟨⟩, hd⟩
  obtain ⟨_, hplain⟩ := Reader.orElse_declines.mp (Reader.expecting_declines.mp hd)
  have hd' : ((Value.text <$> stringLiteral).orElse plainValue).Declines (skipLayout s') :=
    Reader.orElse_declines.mpr
      ⟨(seam.stringLiteral_refuses hskip hq).map, seam.plainValue_mirrors.refuses hskip hplain⟩
  exact .bind_of_ok rfl (Reader.expecting_declines.mpr hd')

lemma tagName_carries : Carries R tagName tagName := seam.identifier_carries.map _

lemma tagReference_mirrors : Mirrors R tagReference tagReference :=
  (seam.literal_mirrors (by decide)).bind fun _ => .commit seam.tagName_carries

end Values

section Tests

lemma operator_mirrors : Mirrors R operator operator := by
  refine seam.layout_mirrors.bind fun _ => Mirrors.firstOf ?_
  have hnot : Mirrors R
      (do keyword "not"; layout; Reader.literal "=="; return Operator.notEq)
      (do keyword "not"; layout; Reader.literal "=="; return Operator.notEq) :=
    (seam.keyword_mirrors (by decide)).bind fun _ => seam.layout_mirrors.bind fun _ =>
      seam.literal_return (by decide) _
  simp only [List.forall_mem_cons]
  exact ⟨hnot, seam.literal_return (by decide) _, seam.literal_return (by decide) _,
    seam.literal_return (by decide) _, seam.literal_return (by decide) _,
    seam.literal_return (by decide) _, seam.literal_return (by decide) _,
    seam.literal_return (by decide) _, seam.keyword_return (by decide) _,
    seam.keyword_return (by decide) _, by simp⟩

lemma betweenOperand_carries : Carries R betweenOperand betweenOperand := by
  have hand : Mirrors R (keyword "and") (keyword "and") := seam.keyword_mirrors (by decide)
  refine seam.layout_mirrors.carries.bind fun _ => Carries.expecting (.firstOf_cons ?_ ?_)
  · refine seam.tagReference_mirrors.bind fun low => seam.layout_mirrors.bind fun _ => ?_
    refine hand.bind fun _ => seam.layout_mirrors.bind fun _ => ?_
    exact (Mirrors.commit seam.tagReference_mirrors.carries).bind fun high => .pure _
  · refine seam.value_carries.bind fun low => seam.layout_mirrors.carries.bind fun _ => ?_
    refine hand.carries.bind fun _ => ?_
    exact (Mirrors.commit seam.value_carries).carries.bind fun high => .pure _

lemma simpleOperand_carries : Carries R
    (Reader.firstOf
      [ (do let tag ← tagReference; return Operand.refs [tag]),
        Operand.value <$> value,
        (do let p ← path; return .nested ⟨p, none, none, .none⟩) ])
    (Reader.firstOf
      [ (do let tag ← tagReference; return Operand.refs [tag]),
        Operand.value <$> value,
        (do let p ← path; return .nested ⟨p, none, none, .none⟩) ]) := by
  refine .firstOf_cons (seam.tagReference_mirrors.bind fun _ => .pure _) ?_
  apply (seam.value_carries.map _).orElse (seam.path_carries.bind fun _ => .pure _)
  intro s s' operand t hs hd hpath
  obtain ⟨p, u, hp, _⟩ := Reader.bind_ok.mp hpath
  obtain ⟨c, r, rfl, hc⟩ := head_of_path_ok hp
  apply Reader.Declines.map
  apply seam.value_refuses hs _ (Reader.map_declines.mp hd)
  rw [skipLayout_word (isWordPart_of_isWordStart hc)]
  rintro d ⟨⟩
  exact ne_of_isWordPart (isWordPart_of_isWordStart hc) rfl

lemma operandOf_carries (op : Operator) : Carries R (operandOf op) (operandOf op) := by
  refine seam.layout_mirrors.carries.bind fun _ => ?_
  cases op with
  | matching => exact (seam.stringLiteral_carries.map _).expecting
  | between => exact seam.betweenOperand_carries
  | isA => exact (seam.typeName_mirrors.carries.map _).expecting
  | _ => exact seam.simpleOperand_carries.expecting

lemma testTag_mirrors : Mirrors R testTag testTag := by
  refine seam.layout_mirrors.bind fun _ => (seam.keyword_mirrors (by decide)).bind fun _ => ?_
  refine seam.layout_mirrors.bind fun _ => (seam.literal_mirrors (by decide)).bind fun _ => ?_
  exact .commit seam.tagName_carries

lemma propertyTest_carries : Carries R propertyTest propertyTest := by
  refine seam.layout_mirrors.carries.bind fun _ => seam.path_carries.expecting.bind fun p => ?_
  refine seam.testTag_mirrors.optional.carries.bind fun tag => ?_
  refine seam.operator_mirrors.optional.carries.bind fun op => ?_
  cases op with
  | none => exact .pure _
  | some op => exact (Mirrors.commit (seam.operandOf_carries op)).carries.bind fun _ => .pure _

lemma propertyTest_refuses (hs : R s s') (he : skipLayout s = c :: r) (hc : isInk c = true)
    (hw : isWordStart c = false) : propertyTest.Declines s' := by
  have hskip := (seam.skip hs).related
  rw [he] at hskip
  rcases seam.tight hskip with hskip | ⟨hgap, _⟩
  · obtain ⟨r', he'⟩ := seam.uncons hc hskip
    have hname : identifier.Declines (c :: r') := ⟨[], c :: r', by simp [identifier, hw]⟩
    have hlayout : layout s' = .ok () (c :: r') := congrArg (Reply.ok ()) he'
    exact .bind_of_ok hlayout (.bind (Reader.expecting_declines.mpr hname.bind))
  · rw [hgap c rfl] at hc
    cases hc

lemma comma_mirrors : Mirrors R comma comma :=
  seam.layout_mirrors.bind fun _ => seam.literal_mirrors (by decide)

lemma blockEnd_carries (a : α) : Carries R (blockEnd a) (blockEnd a) :=
  seam.comma_mirrors.optional.carries.bind fun _ => seam.layout_mirrors.carries.bind fun _ =>
    (seam.literal_return (by decide) a).carries

lemma testBlock_carries : Carries R testBlock testBlock := by
  refine seam.layout_mirrors.carries.bind fun _ => ?_
  refine (seam.literal_mirrors (by decide)).carries.bind fun _ => ?_
  intro s s' block t hs h
  obtain ⟨tests, u, htests, hrest⟩ := Reader.bind_ok.mp h
  obtain ⟨⟨c, r, hu, hc, hw⟩, hcomma⟩ := symbol_of_blockEnd hrest
  obtain ⟨u', htests', hon⟩ : ∃ u', propertyTest.separatedBy comma s' = .ok tests u' ∧
      Onward R s s' u u' := by
    apply seam.propertyTest_carries.separatedBy_of_ends seam.comma_mirrors.carries hs htests
    · rintro rfl _
      exact seam.propertyTest_refuses hs hu hc hw
    · intro u' hR hd
      rcases Reader.bind_declines.mp hd with hd | ⟨_, v, hv, _⟩
      · exact (seam.comma_mirrors.refuses hR hd).bind
      -- Behind the last comma stands the brace.
      · obtain ⟨v', hv', hon⟩ := seam.comma_mirrors.carries hR hv
        obtain ⟨r, he⟩ := hcomma v hv
        exact .bind_of_ok hv' (seam.propertyTest_refuses hon.related he rfl rfl)
  obtain ⟨t', hrest', ht⟩ := (seam.blockEnd_carries _) hon.related hrest
  exact ⟨t', Reader.bind_ok.mpr ⟨tests, u', htests', hrest'⟩, hon.trans ht⟩

end Tests

section Clauses

lemma modifier_mirrors : Mirrors R modifier modifier := by
  apply Mirrors.firstOf
  simp only [List.forall_mem_cons]
  exact ⟨seam.keyword_return (by decide) _, seam.keyword_return (by decide) _,
    seam.keyword_return (by decide) _, seam.keyword_return (by decide) _, by simp⟩

lemma clauseTag_mirrors : Mirrors R clauseTag clauseTag := by
  refine seam.layout_mirrors.bind fun _ => (seam.literal_mirrors (by decide)).bind fun _ => ?_
  exact .commit seam.tagName_carries

lemma clauseTests_mirrors : Mirrors R clauseTests clauseTests := by
  refine seam.layout_mirrors.bind fun _ => (seam.keyword_mirrors (by decide)).bind fun _ => ?_
  exact .commit seam.testBlock_carries

lemma clause_mirrors : Mirrors R clause clause := by
  have hmodifiers := (seam.modifier_mirrors.bind fun m => seam.layout_mirrors.bind fun _ =>
    .pure m).many
  refine seam.layout_mirrors.bind fun _ => hmodifiers.bind fun modifiers => ?_
  refine seam.typeName_mirrors.optional.bind fun target => ?_
  refine seam.clauseTag_mirrors.optional.bind fun tag => ?_
  refine seam.clauseTests_mirrors.optional.bind fun tests => ?_
  dsimp only
  split
  · exact .fail
  · exact .pure _

end Clauses

section Groups

lemma connective_mirrors (k : Connective) : Mirrors R (connective k) (connective k) := by
  refine seam.layout_mirrors.bind fun _ => Mirrors.firstOf ?_
  intro p hp
  obtain ⟨word, hword, rfl⟩ := List.mem_map.mp hp
  apply seam.keyword_mirrors
  cases k <;> simp only [spellings, List.mem_cons, List.not_mem_nil, or_false] at hword <;>
    rcases hword with rfl | rfl <;> decide

variable {n : Nat} {p q : Reader Condition}

lemma open_mirrors {p q : Reader α} (h : Mirrors (Below R n) p q) :
    Mirrors (Below R (n + 1)) (do Reader.literal "("; p) (do Reader.literal "("; q) := by
  have hopen : Mirrors R (Reader.literal "(") (Reader.literal "(") :=
    seam.literal_mirrors (by decide)
  have hinside {s s' t : List Char} (hs : Below R (n + 1) s s')
      (ht : Reader.literal "(" s = .ok () t) :
      ∃ t', Reader.literal "(" s' = .ok () t' ∧ Onward (Below R n) s s' t t' := by
    obtain ⟨t', ht', hon⟩ := hopen.carries hs.1 ht
    have hlength : s'.length = t'.length + 1 := congrArg List.length (Reader.literal_ok.mp ht')
    have hn := hs.2
    exact ⟨t', ht', hon.mono ⟨hon.related, by omega⟩⟩
  constructor
  · intro s s' a u hs h'
    obtain ⟨_, t, ht, hu⟩ := Reader.bind_ok.mp h'
    obtain ⟨t', ht', hon⟩ := hinside hs ht
    obtain ⟨u', hu', hon'⟩ := h.carries hon.related hu
    have hlt := Nat.lt_succ_of_lt hon'.related.2
    exact ⟨u', Reader.bind_ok.mpr ⟨(), t', ht', hu'⟩,
      hon.trans (hon'.mono ⟨hon'.related.1, hlt⟩)⟩
  · intro s s' hs hd
    rcases Reader.bind_declines.mp hd with hd | ⟨_, t, ht, hd⟩
    · exact (hopen.refuses hs.1 hd).bind
    · obtain ⟨t', ht', hon⟩ := hinside hs ht
      exact .bind_of_ok ht' (h.refuses hon.related hd)

lemma primary_mirrors (h : Mirrors (Below R n) p q) :
    Mirrors (Below R (n + 1)) (primary p) (primary q) := by
  have hclose : Mirrors R (Reader.literal ")").commit (Reader.literal ")").commit :=
    .commit (seam.literal_mirrors (by decide)).carries
  refine (seam.layout_mirrors.below _).bind fun _ => .expecting (.firstOf_cons ?_ ?_)
  · apply seam.open_mirrors
    refine h.bind fun c => (seam.layout_mirrors.below n).bind fun _ => ?_
    exact (hclose.below n).bind fun _ => .pure c
  · exact (seam.clause_mirrors.map _).below _

lemma chain_mirrors (k : Connective) (h : Mirrors (Below R n) p q) :
    Mirrors (Below R n) (chain k p) (chain k q) := by
  have hmore := (((seam.connective_mirrors k).below n).bind fun _ => .commit h.carries).many
  exact h.bind fun first => hmore.bind fun more => .pure _

/-- However deep conditions may nest in the first text, in the second one it is enough to allow for
its length. -/
lemma conditionWithin_mirrors (depth n : Nat) :
    Mirrors (Below R n) (conditionWithin depth) (conditionWithin n) := by
  induction depth generalizing n with
  | zero =>
    constructor
    · rintro s s' c t hs ⟨⟩
    · rintro s s' hs ⟨_, _, ⟨⟩⟩
  | succ depth ih =>
    cases n with
    | zero =>
      constructor
      · rintro s s' c t ⟨_, hlt⟩
        cases hlt
      · rintro s s' ⟨_, hlt⟩
        cases hlt
    | succ n =>
      refine (seam.layout_mirrors.below _).bind fun _ => ?_
      exact seam.chain_mirrors .or (seam.chain_mirrors .and (seam.primary_mirrors (ih n)))

lemma condition_carries : Carries R condition condition := by
  intro s s' c t hs h
  have hbelow : Below R (s'.length + 1) s s' := ⟨hs, Nat.lt_succ_self _⟩
  obtain ⟨t', h', ht⟩ := (seam.conditionWithin_mirrors _ _).carries hbelow h
  exact ⟨t', h', ht.mono ht.related.1⟩

end Groups

section Rules

lemma priority_mirrors : Mirrors R priority priority := by
  refine seam.layout_mirrors.bind fun _ => (seam.literal_mirrors (by decide)).bind fun _ => ?_
  refine seam.layout_mirrors.bind fun _ => (seam.literal_mirrors (by decide)).bind fun _ => ?_
  refine seam.layout_mirrors.bind fun _ => ?_
  refine (Mirrors.commit seam.integer_mirrors.carries).bind fun n => ?_
  refine seam.layout_mirrors.bind fun _ => ?_
  refine (Mirrors.commit (seam.literal_mirrors (by decide)).carries).bind fun _ => ?_
  split
  · exact .pure _
  · exact .abort

lemma afterRule_carries : Carries R afterRule afterRule := by
  refine seam.layout_mirrors.carries.bind fun _ => ?_
  refine (Mirrors.commit seam.identifier_carries).expecting.carries.bind fun name => ?_
  refine seam.priority_mirrors.optional.carries.bind fun p => ?_
  refine seam.layout_mirrors.carries.bind fun _ => ?_
  refine (Mirrors.commit (seam.literal_mirrors (by decide)).carries).carries.bind fun _ => ?_
  exact (Mirrors.commit seam.condition_carries).expecting.carries.bind fun body => .pure _

lemma definition_carries : Carries R definition definition := by
  rw [definition_eq]
  refine seam.layout_mirrors.carries.bind fun _ => seam.rule_carries.bind fun _ => ?_
  exact seam.afterRule_carries

end Rules

end Seam

end Antecedent.Source
