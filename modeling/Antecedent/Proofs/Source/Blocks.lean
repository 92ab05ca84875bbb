import Antecedent.Proofs.Source.Literals

namespace Antecedent.Source

variable {rest : List Char}

lemma operator_reads (op : Operator) (more : List Char) :
    operator (' ' :: (op.render.toList ++ ' ' :: more)) = .ok op (' ' :: more) := by
  cases op <;> rfl

section Operands

variable {op : Operator} {operand : Operand}

lemma noPath_space (more : List Char) : NoPath (' ' :: more) := by
  rintro c ⟨⟩
  decide

lemma operandOf_simple (h : op ∈ Operator.simple) (s : List Char) :
    operandOf op s = Reader.expecting .operand (Reader.firstOf
      [ (do let tag ← tagReference; return .refs [tag]),
        Operand.value <$> value,
        (do let p ← path; return .nested ⟨p, none, none, .none⟩) ]) (skipLayout s) := by
  cases op <;> first | rfl | exact absurd h (by decide)

lemma operandOf_matching (s : List Char) : operandOf .matching s =
    Reader.expecting .regularExpression (Operand.pattern <$> stringLiteral) (skipLayout s) := rfl

lemma operandOf_isA (s : List Char) : operandOf .isA s =
    Reader.expecting .typeName (Operand.type <$> typeName) (skipLayout s) := rfl

lemma tagReference_declines {v : Value} (h : v.isPrintable = true) :
    tagReference.Declines (v.render.toList ++ rest) := by
  obtain ⟨c, cs, he, _, _, hat⟩ := value_head h
  apply Reader.Declines.bind
  apply Reader.literal_declines rfl
  rw [he]
  rintro d ⟨⟩
  exact hat

lemma operandOf_between (s : List Char) : operandOf .between (' ' :: s) = betweenOperand s := by
  have hleads : betweenOperand.Leads := layout_leads.bind
  exact hleads (skipLayout s) s (skipLayout_idem s)

lemma range_reads {low high : Value} (hl : low.isPrintable = true) (hh : high.isPrintable = true)
    (hr : NoPath rest) :
    betweenOperand (low.render.toList ++ " and ".toList ++ (high.render.toList ++ rest)) =
      .ok (.range low high) rest := by
  have hlow := value_reads hl (noPath_space ("and ".toList ++ (high.render.toList ++ rest)))
  have hhigh : value (' ' :: (high.render.toList ++ rest)) = .ok high rest :=
    (value_leads _ _ rfl).trans (value_reads hh hr)
  rw [List.append_assoc]
  apply Reader.expecting_of_ok
  rw [skipLayout_value hl]
  refine (Reader.firstOf_of_declines (.bind (tagReference_declines hl))).trans ?_
  apply Reader.firstOf_of_ok
  refine (Reader.bind_of_ok hlow).trans ?_
  exact Reader.bind_of_ok (Reader.commit_of_ok hhigh)

lemma references_read {low high : String} (hl : isIdentifier low = true)
    (hh : isIdentifier high = true) (hr : NoPath rest) :
    betweenOperand ('@' :: (low.toList ++ " and @".toList ++ (high.toList ++ rest))) =
      .ok (.refs [.named low, .named high]) rest := by
  have hlow := tagReference_reads hl (noPath_space ("and @".toList ++ (high.toList ++ rest))).noWord
  have hhigh := tagReference_reads hh hr.noWord
  rw [List.append_assoc]
  apply Reader.expecting_of_ok
  apply Reader.firstOf_of_ok
  refine (Reader.bind_of_ok hlow).trans ?_
  exact Reader.bind_of_ok (Reader.commit_of_ok hhigh)

lemma operandOf_reads (h : operand.Printable op) (hr : NoPath rest) :
    operandOf op (' ' :: (operand.render.toList ++ rest)) = .ok operand rest := by
  cases h with
  | value hop hv =>
    rw [operandOf_simple hop, skipLayout_space, Operand.render, skipLayout_value hv]
    apply Reader.expecting_of_ok
    refine (Reader.firstOf_of_declines (.bind (tagReference_declines hv))).trans ?_
    exact Reader.firstOf_of_ok (Reader.map_of_ok (value_reads hv hr))
  | @reference _ name hop hn =>
    have htext : (Operand.refs [.named name]).render.toList = '@' :: name.toList := by
      simp [Operand.render, toList_reference]
    rw [operandOf_simple hop, htext]
    apply Reader.expecting_of_ok
    exact Reader.firstOf_of_ok (Reader.bind_of_ok (tagReference_reads hn hr.noWord))
  | @pattern source hs =>
    have htext : (Operand.pattern source).render = quoted source := by simp [Operand.render]
    have hskip : skipLayout ((quoted source).toList ++ rest) = (quoted source).toList ++ rest :=
      skipLayout_value (v := .text source) hs
    rw [htext, operandOf_matching, skipLayout_space, hskip]
    exact Reader.expecting_of_ok (Reader.map_of_ok (isPrintable_iff.mp hs _))
  | @range low high hl hh =>
    have htext : (Operand.range low high).render.toList ++ rest =
        low.render.toList ++ " and ".toList ++ (high.render.toList ++ rest) := by
      simp [Operand.render]
    rw [htext, operandOf_between]
    exact range_reads hl hh hr
  | @references low high hl hh =>
    have htext : (Operand.refs [.named low, .named high]).render.toList ++ rest =
        '@' :: (low.toList ++ " and @".toList ++ (high.toList ++ rest)) := by
      simp [Operand.render, toList_reference]
    rw [htext, operandOf_between]
    exact references_read hl hh hr
  | @type name hn =>
    have htext : (Operand.type name).render = name := by simp [Operand.render]
    rw [htext, operandOf_isA, skipLayout_space, skipLayout_identifier (isTypeName_iff.mp hn).1]
    exact Reader.expecting_of_ok (Reader.map_of_ok (typeName_reads hn hr.noWord))

end Operands

section Tests

def TestEnds (rest : List Char) : Prop :=
  (∃ more, rest = ',' :: more) ∨ ∃ more, rest = ' ' :: '\x7d' :: more

lemma TestEnds.noPath (h : TestEnds rest) : NoPath rest := by
  rcases h with ⟨more, rfl⟩ | ⟨more, rfl⟩ <;> rintro c ⟨⟩ <;> decide

lemma TestEnds.testTag (h : TestEnds rest) : testTag.Declines rest := by
  rcases h with ⟨more, rfl⟩ | ⟨more, rfl⟩ <;> exact ⟨_, _, rfl⟩

lemma TestEnds.operator (h : TestEnds rest) : operator.Declines rest := by
  rcases h with ⟨more, rfl⟩ | ⟨more, rfl⟩ <;> exact ⟨_, _, rfl⟩

lemma testTag_declines (op : Operator) (more : List Char) :
    testTag.Declines (' ' :: (op.render.toList ++ ' ' :: more)) := by
  cases op <;> exact ⟨_, _, rfl⟩

def tagText (name : Option String) : List Char :=
  (name.map fun n => " as :".toList ++ n.toList).getD []

lemma noPath_tagText (name : Option String) (hr : NoPath rest) : NoPath (tagText name ++ rest) := by
  cases name with
  | none => exact hr
  | some n => exact noPath_space _

lemma testTag_reads {name : Option String} (h : name.all isIdentifier = true) (hr : NoWord rest)
    (hd : testTag.Declines rest) :
    testTag.optional (tagText name ++ rest) = .ok (name.map .named) rest := by
  cases name with
  | none => exact Reader.optional_of_declines hd
  | some n =>
    apply Reader.optional_of_ok
    exact Reader.commit_of_ok (Reader.map_of_ok (identifier_reads h hr))

lemma propertyTest_leads : propertyTest.Leads := layout_leads.bind

lemma propertyTest_apply (s : List Char) : propertyTest s = (do
    let p ← Reader.expecting .propertyPath path
    let tag ← testTag.optional
    match ← Reader.optional operator with
    | some op =>
      let operand ← Reader.commit (operandOf op)
      return ⟨p, tag, some op, operand⟩
    | none => return ⟨p, tag, none, .none⟩ : Reader PropertyTest) (skipLayout s) := rfl

lemma propertyTest_reads {t : PropertyTest} (h : t.Printable) (hr : TestEnds rest) :
    propertyTest (t.render.toList ++ rest) = .ok t rest := by
  cases h with
  | @bare path name hp hn =>
    have htext : (PropertyTest.render ⟨path, name.map .named, none, .none⟩).toList ++ rest =
        path.render.toList ++ (tagText name ++ rest) := by
      cases name <;> simp [PropertyTest.render, tagText, Tag.render]
    have hpath := path_reads hp (noPath_tagText name hr.noPath)
    rw [htext, propertyTest_apply, skipLayout_path hp]
    refine (Reader.bind_of_ok (Reader.expecting_of_ok hpath)).trans ?_
    refine (Reader.bind_of_ok (testTag_reads hn hr.noPath.noWord hr.testTag)).trans ?_
    exact Reader.bind_of_ok (Reader.optional_of_declines hr.operator)
  | @compared path name op operand hp hn ho =>
    let comparison := ' ' :: (op.render.toList ++ ' ' :: (operand.render.toList ++ rest))
    have htext : (PropertyTest.render ⟨path, name.map .named, some op, operand⟩).toList ++ rest =
        path.render.toList ++ (tagText name ++ comparison) := by
      cases name <;> simp [PropertyTest.render, tagText, Tag.render, comparison]
    have hspace : NoPath comparison := noPath_space _
    have hpath := path_reads hp (noPath_tagText name hspace)
    have htag := testTag_reads hn hspace.noWord (testTag_declines op _)
    rw [htext, propertyTest_apply, skipLayout_path hp]
    refine (Reader.bind_of_ok (Reader.expecting_of_ok hpath)).trans ?_
    refine (Reader.bind_of_ok htag).trans ?_
    refine (Reader.bind_of_ok (Reader.optional_of_ok (operator_reads op _))).trans ?_
    exact Reader.bind_of_ok (Reader.commit_of_ok (operandOf_reads ho hr.noPath))

lemma moreTests_read (ts : List PropertyTest) (h : ∀ t ∈ ts, t.Printable) (more : List Char) :
    ∃ u, Left u (' ' :: '\x7d' :: more) ∧
      Reader.many (do let _ ← comma; propertyTest)
        ((ts.flatMap fun t => ", ".toList ++ t.render.toList) ++ ' ' :: '\x7d' :: more) =
          .ok ts u := by
  have hcomma : (do let _ ← comma; propertyTest : Reader PropertyTest).Leads :=
    layout_leads.bind.bind
  have hread : ∀ t ∈ ts, ∀ r, TestEnds r → ∃ u, Left u r ∧
      (do let _ ← comma; propertyTest : Reader PropertyTest)
        (", ".toList ++ t.render.toList ++ r) = .ok t u := by
    intro t ht r hr
    refine ⟨r, Left.refl r, ?_⟩
    exact (propertyTest_leads _ _ rfl).trans (propertyTest_reads (h t ht) hr)
  have hstart : ∀ t ∈ ts, ∀ r, TestEnds (", ".toList ++ t.render.toList ++ r) ∧
      r.length < (skipLayout (", ".toList ++ t.render.toList ++ r)).length := by
    intro t _ r
    have hskip : skipLayout (", ".toList ++ t.render.toList ++ r) =
        ',' :: ' ' :: (t.render.toList ++ r) := skipLayout_cons rfl (by decide)
    refine ⟨.inl ⟨_, rfl⟩, ?_⟩
    rw [hskip]
    simp only [List.length_cons, List.length_append]
    omega
  have hmany := hcomma.many _ id ts hread hstart (.inr ⟨more, rfl⟩) ⟨_, _, rfl⟩ (Left.refl _)
  rwa [List.map_id] at hmany

lemma testBlock_apply (s : List Char) : testBlock (" \x7b ".toList ++ s) = (do
    let tests ← Reader.separatedBy propertyTest comma
    let _ ← Reader.optional comma
    layout
    Reader.literal "\x7d"
    return tests.map Test.property : Reader (List Test)) (' ' :: s) := rfl

lemma testBlock_reads (ts : List PropertyTest) (h : ∀ t ∈ ts, t.Printable) (rest : List Char) :
    testBlock (" \x7b ".toList ++ ((", ".intercalate (ts.map PropertyTest.render)).toList ++
      ' ' :: '\x7d' :: rest)) = .ok (ts.map .property) rest := by
  cases ts with
  | nil => rfl
  | cons t ts =>
    obtain ⟨ht, hts⟩ := List.forall_mem_cons.mp h
    obtain ⟨u, hu, hmany⟩ := moreTests_read ts hts rest
    have hends : TestEnds ((ts.flatMap fun t => ", ".toList ++ t.render.toList) ++
        ' ' :: '\x7d' :: rest) := by
      cases ts with
      | nil => exact .inr ⟨rest, rfl⟩
      | cons t ts => exact .inl ⟨_, rfl⟩
    have hfirst := (propertyTest_leads (' ' :: _) _ rfl).trans (propertyTest_reads ht hends)
    have hcomma : comma.Declines u := layout_leads.bind.declines hu ⟨_, _, rfl⟩
    have hclose : layout u = .ok () ('\x7d' :: rest) := congrArg (Reply.ok ()) hu.same
    rw [List.map_cons, toList_intercalate_cons, List.flatMap_map, List.append_assoc,
      testBlock_apply]
    refine (Reader.bind_of_ok ((Reader.bind_of_ok (Reader.optional_of_ok hfirst)).trans
      (Reader.bind_of_ok hmany))).trans ?_
    refine (Reader.bind_of_ok (Reader.optional_of_declines hcomma)).trans ?_
    refine (Reader.bind_of_ok hclose).trans ?_
    rfl

end Tests

end Antecedent.Source
