import Antecedent.Proofs.Source.Blocks

namespace Antecedent.Source

variable {s rest : List Char}

structure ModifiersEnd (rest : List Char) : Prop where
  word : NoWord rest
  modifier : modifier.Declines (skipLayout rest)

structure TargetEnds (rest : List Char) : Prop extends ModifiersEnd rest where
  target : typeName.Declines (skipLayout rest)

structure TagEnds (rest : List Char) : Prop extends TargetEnds rest where
  tag : clauseTag.Declines rest

structure ClauseEnds (rest : List Char) : Prop extends TagEnds rest where
  tests : clauseTests.Declines rest

lemma clauseEnds_close (more : List Char) : ClauseEnds (')' :: more) where
  word := by
    rintro c ⟨⟩
    rfl
  modifier := ⟨_, _, rfl⟩
  target := ⟨_, _, rfl⟩
  tag := ⟨_, _, rfl⟩
  tests := ⟨_, _, rfl⟩

lemma clauseEnds_connective {k : Connective} {word : String} (h : word ∈ spellings k)
    (more : List Char) : ClauseEnds (' ' :: (word.toList ++ ' ' :: more)) := by
  have hspace : NoWord (' ' :: (word.toList ++ ' ' :: more)) := (noPath_space _).noWord
  cases k <;> simp only [spellings, List.mem_cons, List.not_mem_nil, or_false] at h <;>
    rcases h with rfl | rfl <;>
      exact ⟨⟨⟨⟨hspace, _, _, rfl⟩, _, _, rfl⟩, _, _, rfl⟩, _, _, rfl⟩

def spaced (tokens : List Token) : List Char := tokens.flatMap fun t => ' ' :: t.render.toList

lemma spaced_inOrder (modifiers : List Modifier) (target : Option String) (tag : Option Tag)
    (block : Option (List Test)) : spaced (inOrder modifiers target tag block) ++ rest =
      spaced (modifiers.map .modifier) ++ (spaced (target.toList.map .target) ++
        (spaced (tag.toList.map .tag) ++ (spaced (block.toList.map .tests) ++ rest))) := by
  simp only [inOrder, spaced, List.flatMap_append, List.append_assoc]

lemma noWord_spaced (tokens : List Token) (hr : NoWord rest) : NoWord (spaced tokens ++ rest) := by
  cases tokens with
  | nil => exact hr
  | cons t tokens => exact (noPath_space _).noWord

section Modifiers

lemma modifier_reads (m : Modifier) (hr : NoWord rest) :
    modifier (m.render.toList ++ rest) = .ok m rest := by
  have hkey := keyword_reads m.render hr
  cases m with
  | negated => exact Reader.firstOf_of_ok (Reader.bind_of_ok hkey)
  | subtyped =>
    refine (Reader.firstOf_of_declines ⟨_, _, rfl⟩).trans ?_
    exact Reader.firstOf_of_ok (Reader.bind_of_ok hkey)
  | collected =>
    refine (Reader.firstOf_of_declines ⟨_, _, rfl⟩).trans ?_
    refine (Reader.firstOf_of_declines ⟨_, _, rfl⟩).trans ?_
    exact Reader.firstOf_of_ok (Reader.bind_of_ok hkey)
  | existing =>
    refine (Reader.firstOf_of_declines ⟨_, _, rfl⟩).trans ?_
    refine (Reader.firstOf_of_declines ⟨_, _, rfl⟩).trans ?_
    refine (Reader.firstOf_of_declines ⟨_, _, rfl⟩).trans ?_
    exact Reader.firstOf_of_ok (Reader.bind_of_ok hkey)

lemma modifier_declines {name : String} (h : isTypeName name = true) (hr : NoWord rest) :
    modifier.Declines (name.toList ++ rest) := by
  obtain ⟨hid, hfree⟩ := isTypeName_iff.mp h
  have hkey : ∀ word ∈ reserved, isIdentifier word = true →
      (keyword word).Declines (name.toList ++ rest) := by
    intro word hw hword
    apply keyword_declines hword hid _ hr
    rintro rfl
    exact hfree hw
  apply Reader.Declines.firstOf
  simp only [List.forall_mem_cons]
  refine ⟨?_, ?_, ?_, ?_, by simp⟩
  · exact .bind (hkey "not" (by decide) (by decide))
  · exact .bind (hkey "is_a" (by decide) (by decide))
  · exact .bind (hkey "collect" (by decide) (by decide))
  · exact .bind (hkey "exists" (by decide) (by decide))

-- The layout behind the last modifier goes with it.
lemma modifiers_read (ms : List Modifier) (he : ModifiersEnd rest) :
    Reader.many (do let m ← modifier; layout; return m)
      (skipLayout (spaced (ms.map .modifier) ++ rest)) = .ok ms (skipLayout rest) := by
  induction ms with
  | nil => exact Reader.many_of_declines he.modifier.bind
  | cons m ms ih =>
    have htext : skipLayout (spaced ((m :: ms).map .modifier) ++ rest) =
        m.render.toList ++ (spaced (ms.map .modifier) ++ rest) := by
      have hskip : ∀ r, skipLayout (m.render.toList ++ r) = m.render.toList ++ r := by
        cases m <;> exact fun _ => rfl
      rw [← hskip]
      simp [spaced, skipLayout_space, Token.render]
    have hread := modifier_reads m (noWord_spaced (ms.map .modifier) he.word)
    rw [htext]
    refine Reader.many_of_ok (Reader.bind_of_ok hread) ?_ ih
    have hle := skipLayout_length_le (spaced (ms.map .modifier) ++ rest)
    have hpos : 0 < m.render.toList.length := by cases m <;> decide
    simp only [List.length_append] at hle ⊢
    omega

end Modifiers

section Target

lemma spaced_target (name : String) (rest : List Char) :
    spaced [.target name] ++ rest = ' ' :: (name.toList ++ rest) := by
  simp [spaced, Token.render]

lemma skipLayout_target {name : String} (h : isTypeName name = true) :
    skipLayout (spaced [.target name] ++ rest) = name.toList ++ rest := by
  rw [spaced_target, skipLayout_space, skipLayout_identifier (isTypeName_iff.mp h).1]

variable {target : Option String} (h : target.all isTypeName = true)
include h

lemma target_reads (he : TargetEnds rest) : ∃ t, Left t rest ∧
    typeName.optional (skipLayout (spaced (target.toList.map .target) ++ rest)) =
      .ok target t := by
  cases target with
  | none => exact ⟨skipLayout rest, Left.skipLayout rest, Reader.optional_of_declines he.target⟩
  | some name =>
    refine ⟨rest, Left.refl rest, ?_⟩
    rw [Option.toList_some, List.map_singleton, skipLayout_target h]
    exact Reader.optional_of_ok (typeName_reads h he.word)

lemma modifiersEnd_target (he : ModifiersEnd rest) :
    ModifiersEnd (spaced (target.toList.map .target) ++ rest) := by
  refine ⟨noWord_spaced _ he.word, ?_⟩
  cases target with
  | none => exact he.modifier
  | some name =>
    rw [Option.toList_some, List.map_singleton, skipLayout_target h]
    exact modifier_declines h he.word

end Target

section Tag

lemma spaced_tag (name : String) (rest : List Char) :
    spaced [.tag (.named name)] ++ rest = ' ' :: ':' :: (name.toList ++ rest) := by
  simp [spaced, Token.render, Tag.render]

lemma clauseTag_leads : clauseTag.Leads := layout_leads.bind

lemma tag_reads {name : Option String} (h : name.all isIdentifier = true) (he : TagEnds rest)
    (hs : Left s (spaced ((name.map Tag.named).toList.map .tag) ++ rest)) :
    ∃ t, Left t rest ∧ clauseTag.optional s = .ok (name.map .named) t := by
  cases name with
  | none => exact ⟨s, hs, Reader.optional_of_declines (clauseTag_leads.declines hs he.tag)⟩
  | some n =>
    refine ⟨rest, Left.refl rest, Reader.optional_of_ok ?_⟩
    rw [clauseTag_leads _ _ hs.same, Option.map_some, Option.toList_some, List.map_singleton,
      spaced_tag]
    exact Reader.commit_of_ok (Reader.map_of_ok (identifier_reads h he.word))

lemma targetEnds_tag (name : Option String) (he : TargetEnds rest) :
    TargetEnds (spaced ((name.map Tag.named).toList.map .tag) ++ rest) := by
  cases name with
  | none => exact he
  | some n =>
    rw [Option.map_some, Option.toList_some, List.map_singleton, spaced_tag]
    exact ⟨⟨(noPath_space _).noWord, _, _, rfl⟩, _, _, rfl⟩

end Tag

section Tests

lemma spaced_tests (ts : List PropertyTest) (rest : List Char) :
    spaced [.tests (ts.map .property)] ++ rest = " where".toList ++ (" \x7b ".toList ++
      ((", ".intercalate (ts.map PropertyTest.render)).toList ++ ' ' :: '\x7d' :: rest)) := by
  have hrender : Test.render ∘ Test.property = PropertyTest.render := rfl
  simp [spaced, Token.render, hrender]

lemma clauseTests_leads : clauseTests.Leads := layout_leads.bind

lemma tests_read {block : Option (List PropertyTest)} (h : ∀ ts ∈ block, ∀ t ∈ ts, t.Printable)
    (he : ClauseEnds rest)
    (hs : Left s (spaced ((block.map (·.map Test.property)).toList.map .tests) ++ rest)) :
    ∃ t, Left t rest ∧ clauseTests.optional s = .ok (block.map (·.map .property)) t := by
  cases block with
  | none => exact ⟨s, hs, Reader.optional_of_declines (clauseTests_leads.declines hs he.tests)⟩
  | some ts =>
    refine ⟨rest, Left.refl rest, Reader.optional_of_ok ?_⟩
    rw [clauseTests_leads _ _ hs.same, Option.map_some, Option.toList_some, List.map_singleton,
      spaced_tests]
    exact Reader.commit_of_ok (testBlock_reads ts (h ts rfl) rest)

lemma tagEnds_tests (block : Option (List PropertyTest)) (he : ClauseEnds rest) :
    TagEnds (spaced ((block.map (·.map Test.property)).toList.map .tests) ++ rest) := by
  cases block with
  | none => exact he.toTagEnds
  | some ts =>
    rw [Option.map_some, Option.toList_some, List.map_singleton, spaced_tests]
    exact ⟨⟨⟨(noPath_space _).noWord, _, _, rfl⟩, _, _, rfl⟩, _, _, rfl⟩

end Tests

lemma clause_leads : clause.Leads := layout_leads.bind

lemma spaced_tokens {c : Clause} (h : c.tokens ≠ []) : ' ' :: c.render.toList = spaced c.tokens := by
  obtain ⟨t, ts, he⟩ := List.exists_cons_of_ne_nil h
  have htext : c.render = " ".intercalate (t.render :: ts.map Token.render) := by
    simp [Clause.render, he]
  rw [htext, toList_intercalate_cons, he, List.flatMap_map]
  rfl

lemma clause_apply (s : List Char) : clause s = (do
    let modifiers ← Reader.many (do let m ← modifier; layout; return m)
    let target ← typeName.optional
    let tag ← clauseTag.optional
    let tests ← clauseTests.optional
    if (inOrder modifiers target tag tests).isEmpty then Reader.fail
    else return ⟨inOrder modifiers target tag tests⟩ : Reader Clause) (skipLayout s) := by
  simp only [clause, inOrder, List.append_assoc]
  rfl

lemma clause_reads {c : Clause} (h : c.Printable) (he : ClauseEnds rest) :
    ∃ t, Left t rest ∧ clause (c.render.toList ++ rest) = .ok c t := by
  have hspaced := spaced_tokens h.nonempty
  obtain ⟨tokens⟩ := c
  obtain ⟨hne, modifiers, target, name, block, rfl, htarget, hname, hblock⟩ := h
  have hb := tagEnds_tests block he
  have hg := targetEnds_tag name hb.toTargetEnds
  have hm := modifiersEnd_target htarget hg.toModifiersEnd
  have hmodifiers := modifiers_read modifiers hm
  obtain ⟨u, hu, htargets⟩ := target_reads htarget hg
  obtain ⟨v, hv, htag⟩ := tag_reads hname hb hu
  obtain ⟨w, hw, htests⟩ := tests_read hblock he hv
  refine ⟨w, hw, ?_⟩
  rw [clause_apply, ← skipLayout_space, ← List.cons_append, hspaced, spaced_inOrder]
  refine (Reader.bind_of_ok hmodifiers).trans ?_
  refine (Reader.bind_of_ok htargets).trans ?_
  refine (Reader.bind_of_ok htag).trans ?_
  refine (Reader.bind_of_ok htests).trans ?_
  exact congrFun (if_neg (by simpa using hne)) w

end Antecedent.Source
