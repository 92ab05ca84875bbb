import Antecedent.Proofs.Source.Grammar

namespace Antecedent.Source

variable {α β : Type} {n : Nat} {s t : List Char}

def Reply.rest : Reply α → List Char
  | .ok _ t => t
  | .fail e => e.rest

def Reply.severity? : Reply α → Option Severity
  | .ok _ _ => none
  | .fail e => some e.severity

lemma Reply.exists_ok {r : Reply α} (h : r.severity? = none) : ∃ a, r = .ok a r.rest := by
  cases r with
  | ok a t => exact ⟨a, rfl⟩
  | fail e => cases h

/-- What is left is a tail of the text. With fewer than `n` opening parentheses in the text, the
reader has not stalled. -/
def Reply.Trails (n : Nat) (s : List Char) : Reply α → Prop
  | .ok _ t => t <:+ s
  | .fail e => e.rest <:+ s ∧ (s.count '(' < n → e.severity ≠ .stalled)

lemma Reply.Trails.of_suffix {r : Reply α} (h : r.Trails n t) (hs : t <:+ s) : r.Trails n s := by
  cases r with
  | ok a u => exact List.IsSuffix.trans h hs
  | fail e =>
    refine ⟨h.1.trans hs, ?_⟩
    intro hn
    exact h.2 (Nat.lt_of_le_of_lt (hs.sublist.count_le '(') hn)

lemma Reply.Trails.rest_suffix {r : Reply α} (h : r.Trails n s) : r.rest <:+ s := by
  cases r with
  | ok a t => exact h
  | fail e => exact h.1

lemma Reply.Trails.not_stalled {r : Reply α} (h : r.Trails n s) (hn : s.count '(' < n) :
    r.severity? ≠ some .stalled := by
  cases r with
  | ok a t => simp [Reply.severity?]
  | fail e => simpa [Reply.severity?] using h.2 hn

namespace Reader

def Advances (n : Nat) (p : Reader α) : Prop := ∀ s, (p s).Trails n s

def Consumes (p : Reader α) : Prop := ∀ ⦃s a t⦄, p s = .ok a t → t.length < s.length

variable {p q : Reader α} {f : α → Reader β} {g : α → β} {ps : List (Reader α)} {a : α}

lemma Advances.suffix (h : p.Advances n) (ha : p s = .ok a t) : t <:+ s := by
  have htail := h s
  rwa [ha] at htail

namespace Advances

lemma bind (hp : p.Advances n) (hf : ∀ a, (f a).Advances n) : (p >>= f).Advances n := by
  intro s
  have hs := hp s
  rw [bind_apply]
  cases hr : p s with
  | ok a t => exact (hf a t).of_suffix (hp.suffix hr)
  | fail e => rwa [hr] at hs

lemma pure (a : α) : (Pure.pure a : Reader α).Advances n := fun s => List.suffix_refl s

lemma map (hp : p.Advances n) (g : α → β) : (g <$> p).Advances n :=
  hp.bind fun a => .pure (g a)

lemma fail : (fail : Reader α).Advances n := fun s => ⟨List.suffix_refl s, by simp⟩

lemma abort : (abort : Reader α).Advances n := fun s => ⟨List.suffix_refl s, by simp⟩

lemma orElse (hp : p.Advances n) (hq : q.Advances n) : (p.orElse q).Advances n := by
  intro s
  have hs := hp s
  rw [Reader.orElse]
  cases hr : p s with
  | ok a t => rwa [hr] at hs
  | fail e =>
    dsimp only
    split
    · exact hq s
    · rwa [hr] at hs

lemma firstOf (h : ∀ p ∈ ps, p.Advances n) : (firstOf ps).Advances n := by
  induction ps with
  | nil => exact .fail
  | cons p ps ih =>
    obtain ⟨hp, hps⟩ := List.forall_mem_cons.mp h
    cases ps with
    | nil => exact hp
    | cons q ps => exact hp.orElse (ih hps)

lemma optional (hp : p.Advances n) : p.optional.Advances n := by
  intro s
  have hs := hp s
  rw [Reader.optional]
  cases hr : p s with
  | ok a t => rwa [hr] at hs
  | fail e =>
    dsimp only
    split
    · exact List.suffix_refl s
    · rwa [hr] at hs

lemma many (hp : p.Advances n) (hc : p.Consumes) : Advances n (many p) := by
  intro s
  have hs := hp s
  fun_induction Reader.many p s with
  | case1 s e hr he => exact List.suffix_refl s
  | case2 s e hr he => rwa [hr] at hs
  | case3 s a t hr hlt as last hmore ih =>
    have htail := ih (hp t)
    rw [hmore] at htail
    exact List.IsSuffix.trans htail (hp.suffix hr)
  | case4 s a t hr hlt e hmore ih =>
    have htail := ih (hp t)
    rw [hmore] at htail
    exact Reply.Trails.of_suffix (r := (.fail e : Reply (List α))) htail (hp.suffix hr)
  | case5 s a t hr hlt => exact (hlt (hc hr)).elim

lemma commit (hp : p.Advances n) : p.commit.Advances n := by
  intro s
  have hs := hp s
  rw [Reader.commit]
  cases hr : p s with
  | ok a t => rwa [hr] at hs
  | fail e =>
    rw [hr] at hs
    refine ⟨?_, ?_⟩
    · split <;> exact hs.1
    · intro hn
      split
      · simp
      · exact hs.2 hn

lemma expecting (hp : p.Advances n) (what : Expectation) : (p.expecting what).Advances n := by
  intro s
  have hs := hp s
  rw [Reader.expecting]
  cases hr : p s with
  | ok a t => rwa [hr] at hs
  | fail e => rwa [hr] at hs

lemma filter (hp : p.Advances n) (qualifies : α → Bool) : (p.filter qualifies).Advances n := by
  intro s
  have hs := hp s
  rw [Reader.filter]
  cases hr : p s with
  | ok a t =>
    dsimp only
    split
    · rwa [hr] at hs
    · exact ⟨List.suffix_refl s, by simp⟩
  | fail e => rwa [hr] at hs

lemma literal (word : String) : (literal word).Advances n := by
  intro s
  rw [Reader.literal]
  split
  · exact List.drop_suffix _ s
  · exact ⟨List.suffix_refl s, by simp⟩

lemma notNext (kind : Char → Bool) : (notNext kind).Advances n := by
  intro s
  cases s with
  | nil => exact List.suffix_refl []
  | cons c s =>
    rw [Reader.notNext]
    split
    · exact ⟨List.suffix_refl _, by simp⟩
    · exact List.suffix_refl _

lemma runOf (start kind : Char → Bool) : (runOf start kind).Advances n := by
  intro s
  cases s with
  | nil => exact ⟨List.suffix_refl [], by simp⟩
  | cons c s =>
    rw [Source.runOf]
    split
    · exact (List.dropWhile_suffix kind).trans (List.suffix_cons c s)
    · exact ⟨List.suffix_refl _, by simp⟩

end Advances

namespace Consumes

lemma bind (hp : p.Consumes) (hf : ∀ a, (f a).Advances 0) : (p >>= f).Consumes := by
  intro s b u h
  obtain ⟨a, t, ha, hb⟩ := bind_ok.mp h
  exact Nat.lt_of_le_of_lt ((hf a).suffix hb).length_le (hp ha)

lemma andThen (hp : p.Advances 0) (hf : ∀ a, (f a).Consumes) : (p >>= f).Consumes := by
  intro s b u h
  obtain ⟨a, t, ha, hb⟩ := bind_ok.mp h
  exact Nat.lt_of_lt_of_le (hf a hb) (hp.suffix ha).length_le

lemma map (hp : p.Consumes) (g : α → β) : (g <$> p).Consumes := hp.bind fun a => .pure (g a)

lemma firstOf (h : ∀ p ∈ ps, p.Consumes) : (firstOf ps).Consumes := by
  intro s a t ha
  obtain ⟨p, hp, hok⟩ := mem_of_firstOf_ok ha
  exact h p hp hok

lemma commit (hp : p.Consumes) : p.commit.Consumes := fun _ _ _ h => hp (commit_ok.mp h)

lemma expecting (hp : p.Consumes) (what : Expectation) : (p.expecting what).Consumes :=
  fun _ _ _ h => hp (expecting_ok.mp h)

lemma filter (hp : p.Consumes) (qualifies : α → Bool) : (p.filter qualifies).Consumes :=
  fun _ _ _ h => hp (filter_ok.mp h).1

lemma literal {word : String} (hw : word.toList ≠ []) : (literal word).Consumes := by
  intro s a t h
  have hlength := congrArg List.length (literal_ok.mp h)
  have hpos := List.length_pos_iff.mpr hw
  rw [List.length_append] at hlength
  omega

lemma runOf (start kind : Char → Bool) : (runOf start kind).Consumes := by
  intro s w t h
  cases s with
  | nil => cases h
  | cons c s =>
    rw [Source.runOf] at h
    split at h
    · cases h
      exact Nat.lt_succ_of_le (List.dropWhile_suffix kind).length_le
    · cases h

end Consumes

end Reader

section Layout

def blanks : Reader Unit := do
  let _ ← Reader.charsOf isBlank

def restOfLine : Reader Unit := fun s =>
  let rest := s.dropWhile fun c => c != '\n' && c != '\r'
  if rest.head? = some '\r' ∧ rest.tail.head? ≠ some '\n' then .fail ⟨.retry, [], rest⟩
  else .ok () rest

def comment : Reader Unit := do
  Reader.literal "#"
  restOfLine

def gap : Reader Unit := Reader.firstOf [blanks, comment]

lemma blanks_advances : blanks.Advances n := by
  rw [blanks, charsOf_eq]
  exact (Reader.Advances.runOf isBlank isBlank).bind fun _ => .pure ()

lemma blanks_consumes : blanks.Consumes := by
  rw [blanks, charsOf_eq]
  exact (Reader.Consumes.runOf isBlank isBlank).bind fun _ => .pure ()

lemma restOfLine_advances : restOfLine.Advances n := by
  intro s
  rw [restOfLine]
  split
  · exact ⟨List.dropWhile_suffix _, by simp⟩
  · exact List.dropWhile_suffix _

lemma restOfLine_retry {e : Failure} (h : restOfLine s = .fail e) : e.severity = .retry := by
  rw [restOfLine] at h
  split at h
  · cases h
    rfl
  · cases h

lemma comment_advances : comment.Advances n :=
  (Reader.Advances.literal "#").bind fun _ => restOfLine_advances

lemma comment_consumes : comment.Consumes :=
  (Reader.Consumes.literal (by decide)).bind fun _ => restOfLine_advances

lemma gap_advances : gap.Advances n := by
  apply Reader.Advances.firstOf
  simp only [List.forall_mem_cons]
  exact ⟨blanks_advances, comment_advances, by simp⟩

lemma gap_consumes : gap.Consumes := by
  apply Reader.Consumes.firstOf
  simp only [List.forall_mem_cons]
  exact ⟨blanks_consumes, comment_consumes, by simp⟩

lemma skipLayout_dropWhile (s : List Char) : skipLayout (s.dropWhile isBlank) = skipLayout s := by
  induction s with
  | nil => rfl
  | cons c s ih =>
    cases hc : isBlank c with
    | true =>
      rw [List.dropWhile_cons_of_pos hc, ih, skipLayout, skipLayout, skipFrom, if_pos hc]
    | false => rw [List.dropWhile_cons_of_neg (by simp [hc])]

lemma skipFrom_mark (mark s : List Char) : skipFrom (some mark) s =
    match restOfLine s with
      | .ok _ rest => skipLayout rest
      | .fail _ => mark := by
  induction s with
  | nil => rfl
  | cons c s ih =>
    rw [skipFrom]
    by_cases hn : c = '\n'
    · subst hn
      rfl
    · by_cases hr : c = '\r'
      · subst hr
        by_cases hs : s.head? = some '\n'
        · simp [restOfLine, hs, skipLayout, skipFrom, isBlank]
        · simp [restOfLine, hs]
      · have hline : restOfLine (c :: s) = restOfLine s := by
          simp [restOfLine, hn, hr]
        rw [if_neg hn, if_neg hr, hline, ih]

lemma gap_cases (s : List Char) : gap.Declines s ∧ skipLayout s = s ∨
    ∃ t, gap s = .ok () t ∧ skipLayout t = skipLayout s := by
  cases s with
  | nil => exact .inl ⟨⟨_, _, rfl⟩, rfl⟩
  | cons c s =>
    cases hb : isBlank c with
    | true =>
      have hread : Reader.charsOf isBlank (c :: s) =
          .ok (c :: s.takeWhile isBlank) (s.dropWhile isBlank) := by simp [Reader.charsOf, hb]
      refine .inr ⟨s.dropWhile isBlank, Reader.firstOf_of_ok (Reader.bind_of_ok hread), ?_⟩
      rw [skipLayout_dropWhile, skipLayout, skipLayout, skipFrom, if_pos hb]
    | false =>
      have hblanks : blanks.Declines (c :: s) :=
        .bind ⟨[], c :: s, by simp [Reader.charsOf, hb]⟩
      have hgap : gap (c :: s) = comment (c :: s) := Reader.firstOf_of_declines hblanks
      by_cases hc : c = '#'
      · subst hc
        have hcomment : comment ('#' :: s) = restOfLine s := rfl
        have hskip : skipLayout ('#' :: s) = skipFrom (some ('#' :: s)) s := rfl
        rw [skipFrom_mark] at hskip
        rw [hcomment] at hgap
        cases hline : restOfLine s with
        | ok a rest =>
          rw [hline] at hgap hskip
          exact .inr ⟨rest, hgap, hskip.symm⟩
        | fail e =>
          rw [hline] at hgap hskip
          exact .inl ⟨Reader.declines_of_fail hgap (restOfLine_retry hline), hskip⟩
      · have hne : ∀ d ∈ (c :: s).head?, d ≠ '#' := by simpa using hc
        have hmark : comment.Declines (c :: s) := .bind (Reader.literal_declines rfl hne)
        obtain ⟨expected, rest, hd⟩ := hmark
        exact .inl ⟨⟨expected, rest, hgap.trans hd⟩, skipLayout_cons hb hc⟩

lemma many_gap (s : List Char) : ∃ units, Reader.many gap s = .ok units (skipLayout s) := by
  induction hn : s.length using Nat.strongRecOn generalizing s with
  | ind n ih =>
    subst hn
    rcases gap_cases s with ⟨hd, hs⟩ | ⟨t, ht, hs⟩
    · exact ⟨[], by rw [hs]; exact Reader.many_of_declines hd⟩
    · have hlt := gap_consumes ht
      obtain ⟨units, hmore⟩ := ih t.length hlt t rfl
      rw [← hs]
      exact ⟨_, Reader.many_of_ok ht hlt hmore⟩

lemma layout_eq : layout = (do let _ ← Reader.many gap) := by
  funext s
  obtain ⟨units, hs⟩ := many_gap s
  rw [Reader.bind_of_ok hs]
  rfl

end Layout

section Words

lemma layout_advances : layout.Advances n := by
  rw [layout_eq]
  exact (gap_advances.many gap_consumes).bind fun _ => .pure ()

lemma identifier_advances : identifier.Advances n := by
  rw [identifier_eq]
  exact (Reader.Advances.runOf isWordStart isWordPart).map _

lemma identifier_consumes : identifier.Consumes := by
  rw [identifier_eq]
  exact (Reader.Consumes.runOf isWordStart isWordPart).map _

lemma keyword_advances (word : String) : (keyword word).Advances n :=
  (Reader.Advances.literal word).bind fun _ => .notNext isWordPart

lemma keyword_consumes {word : String} (hw : word.toList ≠ []) : (keyword word).Consumes :=
  (Reader.Consumes.literal hw).bind fun _ => .notNext isWordPart

lemma segment_advances : Reader.Advances n (do Reader.literal "."; identifier) :=
  (Reader.Advances.literal ".").bind fun _ => identifier_advances

lemma segment_consumes : Reader.Consumes (do Reader.literal "."; identifier) :=
  (Reader.Consumes.literal (by decide)).bind fun _ => identifier_advances

lemma path_advances : path.Advances n :=
  identifier_advances.bind fun _ => (segment_advances.many segment_consumes).bind fun _ => .pure _

lemma path_consumes : path.Consumes :=
  identifier_consumes.bind fun _ => (segment_advances.many segment_consumes).bind fun _ => .pure _

lemma typeName_advances : typeName.Advances n := identifier_advances.filter _

lemma typeName_consumes : typeName.Consumes := identifier_consumes.filter _

lemma tagName_advances : tagName.Advances n := identifier_advances.map _

lemma tagReference_advances : tagReference.Advances n :=
  (Reader.Advances.literal "@").bind fun _ => tagName_advances.commit

end Words

section Values

lemma stringLiteral_advances : stringLiteral.Advances n := by
  intro s
  rw [stringLiteral.eq_def]
  split
  · next rest =>
    split
    · next text after hq =>
      exact ((List.suffix_cons _ after).trans (untilQuote_suffix hq)).trans (List.suffix_cons _ rest)
    · exact ⟨List.nil_suffix, by simp⟩
  · exact ⟨List.suffix_refl s, by simp⟩

lemma unsigned_suffix {sign digits : List Char} (h : unsigned sign s = some (digits, t)) :
    t <:+ s := by
  cases s with
  | nil => cases h
  | cons c s =>
    rw [unsigned] at h
    split at h
    · cases h
      exact (List.dropWhile_suffix _).trans (List.suffix_cons c s)
    · split at h
      · cases h
        exact List.suffix_cons c _
      · cases h

lemma integerNumeral_suffix {digits : List Char} (h : integerNumeral s = some (digits, t)) :
    t <:+ s := by
  by_cases hsign : ∀ c ∈ s.head?, isSign c = false
  · rw [integerNumeral_unsigned hsign] at h
    exact unsigned_suffix h
  · cases s with
    | nil => cases h
    | cons c s =>
      rw [integerNumeral_signed (by simpa using hsign)] at h
      exact (unsigned_suffix h).trans (List.suffix_cons c s)

lemma integer_advances : integer.Advances n := by
  intro s
  rw [integer]
  split
  · next digits rest hn =>
    split
    · exact integerNumeral_suffix hn
    · exact ⟨List.suffix_refl s, by simp⟩
  · exact ⟨List.suffix_refl s, by simp⟩

lemma charsOf_advances (kind : Char → Bool) : (Reader.charsOf kind).Advances n := by
  rw [charsOf_eq]
  exact .runOf kind kind

lemma negativeNumber_advances : negativeNumber.Advances n := by
  refine (Reader.Advances.literal "-").bind fun _ => (charsOf_advances _).bind fun body => ?_
  split
  · cases Numeral.float? ('-' :: body) with
    | some x => exact .pure _
    | none => exact .abort
  · cases Numeral.int? ('-' :: body) with
    | some i => exact .pure _
    | none => exact .abort

lemma decimalFraction_advances : decimalFraction.Advances n := by
  refine (charsOf_advances _).bind fun whole => (Reader.Advances.literal ".").bind fun _ => ?_
  refine (charsOf_advances _).bind fun fraction => ?_
  cases Numeral.float? (whole ++ '.' :: fraction) with
  | some x => exact .pure _
  | none => exact .fail

lemma value_advances : value.Advances n := by
  refine layout_advances.bind fun _ => .expecting (.firstOf ?_) _
  simp only [List.forall_mem_cons]
  exact ⟨stringLiteral_advances.map _, (keyword_advances _).bind fun _ => .pure _,
    (keyword_advances _).bind fun _ => .pure _, negativeNumber_advances, decimalFraction_advances,
    integer_advances.map _, by simp⟩

end Values

end Antecedent.Source
