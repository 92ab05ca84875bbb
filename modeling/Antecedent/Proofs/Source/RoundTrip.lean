import Antecedent.Proofs.Source.Expressions

/-! Definitions read back from the lines that show them. -/

namespace Antecedent.Source

variable {rest : List Char}

section Body

lemma body_reads {m : Condition} {ms : List Condition}
    (h : ∀ c ∈ m :: ms, c.Built Clause.Printable) (hand : (connective .and).Declines rest)
    (hor : (connective .or).Declines rest) :
    condition (' ' :: ((Condition.group .and (m :: ms)).render.toList ++ rest)) =
      .ok (grouped .and m ms) rest := by
  obtain ⟨e, hrender, htree⟩ := Condition.exists_expression .and fun c hc => (h c hc).exists_factor
  let text := (Phrase.parens e).render.toList ++ rest
  have hlength : e.render.length ≤ text.length := by
    simp only [text, Phrase.render, String.toList_append, List.length_append, String.length_toList]
    omega
  have hparens := parens_read (phrase_reads e hlength) rest
  have hskip : skipLayout text = text := by
    simp only [text, Phrase.render, String.toList_append, List.append_assoc]
    exact skipLayout_cons rfl (by decide)
  rw [← hrender, ← htree, condition_apply, hskip]
  exact chain_single (chain_single hparens hand) hor

lemma topConditions_of_ne {c : Condition} (h : ∀ members, c ≠ .group .and members) :
    topConditions c = [c] := by
  cases c with
  | clause c => rfl
  | group k members =>
    cases k with
    | or => rfl
    | and => exact (h members rfl).elim

lemma topConditions_grouped {m : Condition} {ms : List Condition}
    (h : ∀ members, m :: ms ≠ [.group .and members]) :
    topConditions (grouped .and m ms) = m :: ms := by
  cases ms with
  | cons c cs => rfl
  | nil =>
    apply topConditions_of_ne
    rintro members rfl
    exact h members rfl

end Body

section Header

def priorityText (p : Option Int32) : List Char :=
  (p.map fun n => " (priority ".toList ++ ((toString n.toInt).toList ++ [')'])).getD []

lemma priority_apply (s : List Char) : priority (" (priority ".toList ++ s) = (do
    let n ← Reader.commit integer
    layout
    Reader.commit (Reader.literal ")")
    if Int32.minValue.toInt ≤ n.toInt ∧ n.toInt ≤ Int32.maxValue.toInt then
      return Int32.ofInt n.toInt
    else Reader.abort : Reader Int32) (skipLayout s) := rfl

lemma priority_reads (p : Option Int32) (more : List Char) :
    priority.optional (priorityText p ++ ':' :: more) = .ok p (':' :: more) := by
  cases p with
  | none => exact Reader.optional_of_declines ⟨_, _, rfl⟩
  | some n =>
    have hn : n.toInt64.toInt = n.toInt := Int32.toInt_toInt64 n
    have htext : priorityText (some n) ++ ':' :: more =
        " (priority ".toList ++ ((toString n.toInt64.toInt).toList ++ ')' :: ':' :: more) := by
      simp [priorityText, hn]
    have hclose : NoWord (')' :: ':' :: more) := by
      rintro c ⟨⟩
      rfl
    have hread := integer_reads (Int64.minValue_le_toInt n.toInt64) (Int64.toInt_le n.toInt64) hclose
    have hskip : skipLayout ((toString n.toInt64.toInt).toList ++ ')' :: ':' :: more) =
        (toString n.toInt64.toInt).toList ++ ')' :: ':' :: more :=
      skipLayout_value (v := .int n.toInt64) rfl
    have hrange : Int32.minValue.toInt ≤ n.toInt64.toInt ∧
        n.toInt64.toInt ≤ Int32.maxValue.toInt := by
      rw [hn]
      exact ⟨Int32.minValue_le_toInt n, Int32.toInt_le n⟩
    rw [Int64.ofInt_toInt] at hread
    rw [htext]
    apply Reader.optional_of_ok
    rw [priority_apply, hskip]
    refine (Reader.bind_of_ok (Reader.commit_of_ok hread)).trans ?_
    refine (congrFun (if_pos hrange) (':' :: more)).trans ?_
    rw [hn, Int32.ofInt_toInt]
    rfl

end Header

lemma definition_leads : definition.Leads := layout_leads.bind

lemma definition_text (d : Definition) : d.render.toList ++ rest =
    "rule ".toList ++ (d.name.toList ++ (priorityText d.priority ++
      ':' :: ' ' :: (d.condition.render.toList ++ rest))) := by
  cases hp : d.priority <;> simp [Definition.render, hp, priorityText]

lemma definition_apply (s : List Char) : definition ("rule ".toList ++ s) = (do
    let name ← Reader.expecting .ruleName (Reader.commit identifier)
    let p ← Reader.optional priority
    layout
    Reader.commit (Reader.literal ":")
    let body ← Reader.expecting .ruleBody (Reader.commit condition)
    return ⟨name, p, topConditions body⟩ : Reader Definition) (skipLayout s) := rfl

lemma definition_body {name : String} {p : Option Int32} {body : List Char} {c : Condition}
    (hname : isIdentifier name = true) (hbody : condition (' ' :: body) = .ok c rest) :
    definition ("rule ".toList ++ (name.toList ++ (priorityText p ++ ':' :: ' ' :: body))) =
      .ok ⟨name, p, topConditions c⟩ rest := by
  have hword : NoWord (priorityText p ++ ':' :: ' ' :: body) := by
    cases p <;> rintro c ⟨⟩ <;> rfl
  have hread := identifier_reads hname hword
  rw [definition_apply, skipLayout_identifier hname]
  refine (Reader.bind_of_ok (Reader.expecting_of_ok (Reader.commit_of_ok hread))).trans ?_
  refine (Reader.bind_of_ok (priority_reads p _)).trans ?_
  exact Reader.bind_of_ok (Reader.expecting_of_ok (Reader.commit_of_ok hbody))

lemma definition_reads {d : Definition} (h : d.Printable) (hand : (connective .and).Declines rest)
    (hor : (connective .or).Declines rest) : definition (d.render.toList ++ rest) = .ok d rest := by
  obtain ⟨name, p, conditions⟩ := d
  obtain ⟨m, ms, rfl⟩ : ∃ m ms, conditions = m :: ms := List.exists_cons_of_ne_nil h.nonempty
  have hbody := body_reads h.conditions hand hor
  rw [definition_text]
  refine (definition_body h.name hbody).trans ?_
  rw [topConditions_grouped h.top]

section Pages

def BodyEnds (rest : List Char) : Prop :=
  (connective .and).Declines rest ∧ (connective .or).Declines rest

lemma line_reads {d : Definition} (h : d.Printable) (hr : BodyEnds rest) :
    definition ('\n' :: d.render.toList ++ rest) = .ok d rest := by
  have hbreak : skipLayout ('\n' :: (d.render.toList ++ rest)) =
      skipLayout (d.render.toList ++ rest) := rfl
  rw [List.cons_append, definition_leads _ _ hbreak]
  exact definition_reads h hr.1 hr.2

lemma line_starts (d : Definition) (more : List Char) :
    BodyEnds ('\n' :: d.render.toList ++ more) ∧
      more.length < (skipLayout ('\n' :: d.render.toList ++ more)).length := by
  rw [List.cons_append, definition_text]
  refine ⟨⟨⟨_, _, rfl⟩, _, _, rfl⟩, ?_⟩
  change more.length < ("rule ".toList ++ (d.name.toList ++ (priorityText d.priority ++
    ':' :: ' ' :: (d.condition.render.toList ++ more)))).length
  simp only [List.length_append, List.length_cons]
  omega

-- The first line counts as one behind a line break too.
lemma left_page (ds : List Definition) (rest : List Char) :
    Left (("\n".intercalate (ds.map Definition.render)).toList ++ rest)
      ((ds.flatMap fun d => '\n' :: d.render.toList) ++ rest) := by
  cases ds with
  | nil => exact Left.refl rest
  | cons d ds =>
    have htext : ("\n".intercalate ((d :: ds).map Definition.render)).toList =
        d.render.toList ++ ds.flatMap fun e => '\n' :: e.render.toList := by
      rw [List.map_cons, toList_intercalate_cons, List.flatMap_map]
      rfl
    rw [htext]
    exact ⟨rfl, Nat.le_succ _⟩

lemma definitions_read {ds : List Definition} (h : ∀ d ∈ ds, d.Printable)
    (hr : skipLayout rest = []) :
    definitions (("\n".intercalate (ds.map Definition.render)).toList ++ rest) = .ok ds [] := by
  have hread : ∀ d ∈ ds, ∀ r, BodyEnds r → ∃ t, Left t r ∧
      definition ('\n' :: d.render.toList ++ r) = .ok d t :=
    fun d hd r hr => ⟨r, Left.refl r, line_reads (h d hd) hr⟩
  have hstart : ∀ d ∈ ds, ∀ r, BodyEnds ('\n' :: d.render.toList ++ r) ∧
      r.length < (skipLayout ('\n' :: d.render.toList ++ r)).length := fun d _ => line_starts d
  have hbody : BodyEnds rest :=
    ⟨⟨_, _, connective_leads .and rest [] hr⟩, _, _, connective_leads .or rest [] hr⟩
  have hend : definition.Declines rest := ⟨_, _, definition_leads rest [] hr⟩
  obtain ⟨t, ht, hmany⟩ := definition_leads.many _ id ds hread hstart hbody hend (left_page ds rest)
  have hlast : layout t = .ok () [] := congrArg (Reply.ok ()) (ht.same.trans hr)
  rw [List.map_id] at hmany
  refine (Reader.bind_of_ok hmany).trans ?_
  exact Reader.bind_of_ok hlast

lemma parse_of_definitions {text : String} {ds : List Definition}
    (h : definitions text.toList = .ok ds []) : parse text = .ok ds := by
  have hdocument : document text.toList = .ok ds [] := Reader.bind_of_ok h
  rw [parse, hdocument]

end Pages

end Antecedent.Source

namespace Antecedent

theorem parse_rendered_definitions {ds : List Definition} (h : ∀ d ∈ ds, d.Printable) :
    Source.parse ("\n".intercalate (ds.map Definition.render)) = .ok ds ∧
      Source.parse ("\n".intercalate (ds.map Definition.render) ++ "\n") = .ok ds ∧
      -- The printable texts leave out none that would read back.
      ∀ text, isPrintable text = true ↔
        ∀ rest, Source.stringLiteral ((quoted text).toList ++ rest) = .ok text rest := by
  refine ⟨?_, ?_, fun text => Source.isPrintable_iff⟩
  · apply Source.parse_of_definitions
    rw [← List.append_nil (String.intercalate _ _).toList]
    exact Source.definitions_read h rfl
  · apply Source.parse_of_definitions
    rw [String.toList_append]
    exact Source.definitions_read h rfl

def notary : Clause := ⟨[.modifier .negated, .target "notary", .tag (.named "where"), .tests [
  .property ⟨⟨["as", "not"]⟩, some (.named "and"), some .between,
    .refs [.named "and", .named "or"]⟩,
  .property ⟨⟨["is_a"]⟩, none, some .isA, .type "trueType"⟩]]⟩

lemma notary_printable : notary.Printable := by
  refine ⟨List.cons_ne_nil _ _, [.negated], some "notary", some "where", some [_, _], rfl,
    by decide, by decide, ?_⟩
  simp only [Option.mem_def, Option.some.injEq, forall_eq', List.forall_mem_cons]
  refine ⟨?_, ?_, by simp⟩
  · exact @PropertyTest.Printable.compared _ (some "and") _ _ (by decide) (by decide)
      (.references (by decide) (by decide))
  · exact @PropertyTest.Printable.compared _ none _ _ (by decide) rfl (.type (by decide))

def quoting : Clause := ⟨[.tests [
  .property ⟨⟨["between"]⟩, none, some .notEq, .value (.text "say \"#\"\n")⟩,
  .property ⟨⟨["n"]⟩, none, some .between, .range (.int (-9223372036854775808)) (.int 0)⟩]]⟩

lemma quoting_printable : quoting.Printable := by
  refine ⟨List.cons_ne_nil _ _, [], none, none, some [_, _], rfl, rfl, rfl, ?_⟩
  simp only [Option.mem_def, Option.some.injEq, forall_eq', List.forall_mem_cons]
  refine ⟨?_, ?_, by simp⟩
  · exact @PropertyTest.Printable.compared _ none _ _ (by decide) rfl
      (.value (by decide) (by decide))
  · exact @PropertyTest.Printable.compared _ none _ _ (by decide) rfl (.range rfl rfl)

def wordy : List Definition := [
  -- Names that are words of the language or begin like them.
  { name := "rule"
    priority := some (-2147483648)
    conditions := [.group .or [.clause notary, .clause ⟨[.modifier .existing]⟩]] },
  { name := "priority"
    priority := none
    conditions := [.clause quoting,
      .group .and [.clause ⟨[.target "android"]⟩, .clause ⟨[.tag (.named "rule")]⟩]] }]

lemma wordy_printable : ∀ d ∈ wordy, d.Printable := by
  have hexists : Clause.Printable ⟨[.modifier .existing]⟩ :=
    ⟨by simp, [.existing], none, none, none, rfl, rfl, rfl, by simp⟩
  have handroid : Clause.Printable ⟨[.target "android"]⟩ :=
    ⟨by simp, [], some "android", none, none, rfl, by decide, rfl, by simp⟩
  have hrule : Clause.Printable ⟨[.tag (.named "rule")]⟩ :=
    ⟨by simp, [], none, some "rule", none, rfl, rfl, by decide, by simp⟩
  simp only [wordy, List.forall_mem_cons]
  refine ⟨⟨by decide, ?_, by simp, by simp⟩, ⟨by decide, ?_, by simp, by simp⟩, by simp⟩
  · simp only [List.forall_mem_cons]
    exact ⟨.group (by decide) (by simp [notary_printable, hexists, Condition.Built.clause]), by simp⟩
  · simp only [List.forall_mem_cons]
    exact ⟨.clause quoting_printable,
      .group (by decide) (by simp [handroid, hrule, Condition.Built.clause]), by simp⟩

def wordyText : String :=
  "rule rule (priority -2147483648): ((not notary :where where \x7b as.not as :and between " ++
    "@and and @or, is_a is_a trueType \x7d OR exists))\n" ++
  "rule priority: (where \x7b between not == \"say \\\"#\\\"\\n\", n between " ++
    "-9223372036854775808 and 0 \x7d AND (android AND :rule))"

theorem wordy_reads_back :
    (∀ d ∈ wordy, d.Printable) ∧ Source.parse wordyText = .ok wordy := by
  have htext : "\n".intercalate (wordy.map Definition.render) = wordyText := by decide +kernel
  refine ⟨wordy_printable, ?_⟩
  rw [← htext]
  exact (parse_rendered_definitions wordy_printable).1

end Antecedent
