import Antecedent.Proofs.Source.Alongside
import Antecedent.Proofs.Source.Literals

/-! Words, numbers and symbols in two texts that differ only in layout or in what stands behind the
last rule. -/

namespace Antecedent.Source

variable {α : Type} {R T : List Char → List Char → Prop} {s s' t t' w : List Char} {c : Char}
  {kind : Char → Bool} {word : String} {p : Reader α}

def isInk (c : Char) : Bool := !isBlank c && c != '#'

def isPlain (c : Char) : Bool := isInk c && c != '"'

def AtGap (s : List Char) : Prop := ∀ c ∈ s.head?, isInk c = false

def AtRule (s : List Char) : Prop := s = [] ∨ ∃ rest, s = "rule".toList ++ rest ∧ NoWord rest

/-- Texts that are read alike. In the middle of a word or behind one they are related by `T`. Between
words they are related by `R`: there, the second text may have another rule where the first one has
nothing but layout. -/
structure Seam (R T : List Char → List Char → Prop) : Prop where
  loosen : ∀ {s s'}, T s s' → R s s'
  tight : ∀ {s s'}, R s s' → T s s' ∨ AtGap s ∧ AtRule s'
  skip : ∀ {s s'}, R s s' → Onward R s s' (skipLayout s) (skipLayout s')
  head : ∀ {s s'}, T s s' → s.head? = s'.head? ∨ AtGap s ∧ AtGap s'
  step : ∀ {c s s'}, isPlain c = true → T (c :: s) (c :: s') → T s s'
  quoted : ∀ {s s' text t}, T ('"' :: s) ('"' :: s') → untilQuote s = some (text, t) →
    ∃ t', untilQuote s' = some (text, t') ∧ T t t'

lemma isInk_of_isPlain (h : isPlain c = true) : isInk c = true := (Bool.and_eq_true_iff.mp h).1

lemma inked (hk : ∀ c, kind c = true → isPlain c = true) : ∀ c, kind c = true → isInk c = true :=
  fun c hc => isInk_of_isPlain (hk c hc)

lemma isPlain_of_isWordPart (h : isWordPart c = true) : isPlain c = true := by
  have hhash : c ≠ '#' := ne_of_isWordPart h rfl
  have hquote : c ≠ '"' := ne_of_isWordPart h rfl
  simp [isPlain, isInk, isBlank_of_isWordPart h, hhash, hquote]

lemma isPlain_of_isWordStart (h : isWordStart c = true) : isPlain c = true :=
  isPlain_of_isWordPart (isWordPart_of_isWordStart h)

lemma isPlain_of_isDigit (h : Numeral.isDigit c = true) : isPlain c = true :=
  isPlain_of_isWordPart (isWordPart_of_isDigit h)

lemma AtGap.head (h : AtGap s) (hk : ∀ c, kind c = true → isInk c = true) :
    ∀ c ∈ s.head?, kind c = false := by
  intro c hc
  cases hkc : kind c with
  | false => rfl
  | true =>
    have hink := hk c hkc
    rw [h c hc] at hink
    cases hink

lemma AtRule.head (h : AtRule s) : ∀ c ∈ s.head?, c = 'r' := by
  rcases h with rfl | ⟨rest, rfl, _⟩
  · rintro c ⟨⟩
  · rintro c ⟨⟩
    rfl

def runOf (start kind : Char → Bool) : Reader (List Char)
  | [] => .fail ⟨.retry, [], []⟩
  | c :: rest =>
    if start c then .ok (c :: rest.takeWhile kind) (rest.dropWhile kind)
    else .fail ⟨.retry, [], c :: rest⟩

lemma runOf_declines {start : Char → Bool} :
    (runOf start kind).Declines s ↔ ∀ c ∈ s.head?, start c = false := by
  cases s with
  | nil => simp [Reader.Declines, runOf]
  | cons c s => cases hc : start c <;> simp [Reader.Declines, runOf, hc]

lemma identifier_eq : identifier = String.ofList <$> runOf isWordStart isWordPart := by
  funext s
  cases s with
  | nil => rfl
  | cons c s =>
    change identifier (c :: s) = (runOf isWordStart isWordPart >>= fun w => pure (String.ofList w)) _
    cases hc : isWordStart c with
    | true =>
      simp only [identifier, Reader.bind_apply, runOf, hc]
      rfl
    | false => simp [identifier, Reader.bind_apply, runOf, hc]

lemma charsOf_eq (kind : Char → Bool) : Reader.charsOf kind = runOf kind kind := by
  funext s
  cases s <;> rfl

def unsigned (sign : List Char) : List Char → Option (List Char × List Char)
  | [] => none
  | c :: rest =>
    if '1' ≤ c && c ≤ '9' then
      some (sign ++ c :: rest.takeWhile Numeral.isDigit, rest.dropWhile Numeral.isDigit)
    else if c = '0' && sign.isEmpty then some (['0'], rest)
    else none

lemma unsigned_of_not_isDigit {sign : List Char} (h : ∀ c ∈ s.head?, Numeral.isDigit c = false) :
    unsigned sign s = none := by
  cases s with
  | nil => rfl
  | cons c s =>
    have hc : ¬ ('0' ≤ c ∧ c ≤ '9') := by simpa [Numeral.isDigit] using h
    have hlow : ¬ ('1' ≤ c ∧ c ≤ '9') := fun hd => hc ⟨Char.le_trans (by decide) hd.1, hd.2⟩
    have hzero : c ≠ '0' := by
      rintro rfl
      exact hc (by decide)
    simp [unsigned, hlow, hzero]

def isSign (c : Char) : Bool := c == '+' || c == '-'

lemma isPlain_of_isSign (h : isSign c = true) : isPlain c = true := by
  simp only [isSign, Bool.or_eq_true, beq_iff_eq] at h
  rcases h with rfl | rfl <;> rfl

lemma integerNumeral_signed (h : isSign c = true) : integerNumeral (c :: s) = unsigned [c] s := by
  simp only [isSign, Bool.or_eq_true, beq_iff_eq] at h
  rcases h with rfl | rfl <;> cases s <;> rfl

lemma integerNumeral_unsigned (h : ∀ c ∈ s.head?, isSign c = false) :
    integerNumeral s = unsigned [] s := by
  cases s with
  | nil => rfl
  | cons c s =>
    have hc : c ≠ '+' ∧ c ≠ '-' := by simpa [isSign] using h
    simp [integerNumeral, unsigned, hc]

lemma integer_ok {n : Int64} : integer s = .ok n t ↔
    ∃ digits, integerNumeral s = some (digits, t) ∧ Numeral.int? digits = some n := by
  rw [integer]
  cases integerNumeral s with
  | none => simp
  | some x =>
    obtain ⟨digits, u⟩ := x
    cases hn : Numeral.int? digits <;> grind

lemma integer_declines : integer.Declines s ↔ integerNumeral s = none ∨
    ∃ digits t, integerNumeral s = some (digits, t) ∧ Numeral.int? digits = none := by
  rw [Reader.Declines, integer]
  cases integerNumeral s with
  | none => simp
  | some x =>
    obtain ⟨digits, u⟩ := x
    cases hn : Numeral.int? digits <;> simp [hn]

lemma stringLiteral_ok {text : String} : stringLiteral s = .ok text t ↔
    ∃ r chars, s = '"' :: r ∧ untilQuote r = some (chars, t) ∧ String.ofList chars = text := by
  constructor
  · intro h
    rw [stringLiteral.eq_def] at h
    split at h
    · next r =>
      split at h
      · next chars after hr =>
        cases h
        exact ⟨r, chars, rfl, hr, rfl⟩
      · cases h
    · cases h
  · rintro ⟨r, chars, rfl, hr, rfl⟩
    simp [stringLiteral, hr]

lemma untilQuote_suffix {chars : List Char} (h : untilQuote s = some (chars, t)) :
    '"' :: t <:+ s := by
  fun_induction untilQuote s generalizing chars with
  | case1 => cases h
  | case2 rest =>
    cases h
    exact List.suffix_refl _
  | case3 => cases h
  | case4 c rest ih =>
    obtain ⟨⟨text, after⟩, hq, he⟩ := Option.map_eq_some_iff.mp h
    cases he
    exact ((ih hq).trans (List.suffix_cons c rest)).trans (List.suffix_cons _ _)
  | case5 c rest _ _ _ ih =>
    obtain ⟨⟨text, after⟩, hq, he⟩ := Option.map_eq_some_iff.mp h
    cases he
    exact (ih hq).trans (List.suffix_cons c rest)

lemma untilQuote_length {chars : List Char} (h : untilQuote s = some (chars, t)) :
    t.length < s.length := (untilQuote_suffix h).length_le

lemma integer_declines_of_head (hsign : ∀ c ∈ s.head?, isSign c = false)
    (hdigit : ∀ c ∈ s.head?, Numeral.isDigit c = false) : integer.Declines s := by
  apply integer_declines.mpr
  rw [integerNumeral_unsigned hsign]
  exact .inl (unsigned_of_not_isDigit hdigit)

lemma identifier_of_atGap (h : AtGap s) : identifier.Declines s := by
  rw [identifier_eq]
  apply Reader.Declines.map
  apply runOf_declines.mpr
  exact h.head (inked fun _ => isPlain_of_isWordStart)

def isToken (word : String) : Bool :=
  word.toList.all isPlain && word.toList.head?.any (· != 'r')

lemma literal_of_isToken (h : isToken word = true) : word.toList.all isPlain = true ∧
    (∀ s, AtGap s → (Reader.literal word).Declines s) ∧
      ∀ s, AtRule s → (Reader.literal word).Declines s := by
  rw [isToken, Bool.and_eq_true_iff] at h
  obtain ⟨hall, hhead⟩ := h
  cases hw : word.toList with
  | nil =>
    rw [hw] at hhead
    cases hhead
  | cons c cs =>
    have hc : isInk c = true := isInk_of_isPlain (List.all_eq_true.mp hall c (by simp [hw]))
    have hr : c ≠ 'r' := by simpa [hw] using hhead
    refine ⟨hw ▸ hall, ?_, ?_⟩
    · intro s hs
      apply Reader.literal_declines hw
      rintro d hd rfl
      rw [hs d hd] at hc
      cases hc
    · intro s hs
      apply Reader.literal_declines hw
      rintro d hd rfl
      exact hr (hs.head d hd)

namespace Seam

variable (seam : Seam R T)

include seam

section Characters

lemma uncons (hc : isInk c = true) (h : T (c :: s) s') : ∃ t', s' = c :: t' := by
  rcases seam.head h with he | ⟨hgap, _⟩
  · cases s' with
    | nil => cases he
    | cons d t' =>
      cases he
      exact ⟨t', rfl⟩
  · rw [hgap c rfl] at hc
    cases hc

lemma uncons_right (hc : isInk c = true) (h : T s (c :: s')) : ∃ t, s = c :: t := by
  rcases seam.head h with he | ⟨_, hgap⟩
  · cases s with
    | nil => cases he
    | cons d t =>
      cases he
      exact ⟨t, rfl⟩
  · rw [hgap c rfl] at hc
    cases hc

lemma append (hw : ∀ c ∈ w, isPlain c = true) (h : T (w ++ t) s') :
    ∃ t', s' = w ++ t' ∧ T t t' := by
  induction w generalizing s' with
  | nil => exact ⟨s', rfl, h⟩
  | cons c w ih =>
    obtain ⟨hc, hw⟩ := List.forall_mem_cons.mp hw
    obtain ⟨u', rfl⟩ := seam.uncons (isInk_of_isPlain hc) h
    obtain ⟨t', rfl, ht⟩ := ih hw (seam.step hc h)
    exact ⟨t', rfl, ht⟩

lemma append_right (hw : ∀ c ∈ w, isPlain c = true) (h : T s (w ++ t')) :
    ∃ t, s = w ++ t ∧ T t t' := by
  induction w generalizing s with
  | nil => exact ⟨s, rfl, h⟩
  | cons c w ih =>
    obtain ⟨hc, hw⟩ := List.forall_mem_cons.mp hw
    obtain ⟨u, rfl⟩ := seam.uncons_right (isInk_of_isPlain hc) h
    obtain ⟨t, rfl, ht⟩ := ih hw (seam.step hc h)
    exact ⟨t, rfl, ht⟩

lemma head_tight (hk : ∀ c, kind c = true → isInk c = true) (h : T s s') :
    (∀ c ∈ s.head?, kind c = false) ↔ ∀ c ∈ s'.head?, kind c = false := by
  rcases seam.head h with he | ⟨hgap, hgap'⟩
  · rw [he]
  · exact iff_of_true (hgap.head hk) (hgap'.head hk)

lemma head_loose (hk : ∀ c, kind c = true → isInk c = true) (hr : kind 'r' = false)
    (h : R s s') (hs : ∀ c ∈ s.head?, kind c = false) : ∀ c ∈ s'.head?, kind c = false := by
  rcases seam.tight h with h | ⟨_, hrule⟩
  · exact (seam.head_tight hk h).mp hs
  · intro c hc
    rwa [hrule.head c hc]

lemma run (hk : ∀ c, kind c = true → isPlain c = true) (h : T s s') :
    s'.takeWhile kind = s.takeWhile kind ∧ Onward T s s' (s.dropWhile kind) (s'.dropWhile kind) := by
  induction s generalizing s' with
  | nil =>
    have hend : ∀ c ∈ s'.head?, kind c = false :=
      (seam.head_tight (inked hk) h).mp (by simp)
    cases s' with
    | nil => exact ⟨rfl, .refl h⟩
    | cons c s' => simpa [hend c rfl] using .refl h
  | cons c s ih =>
    cases hc : kind c with
    | true =>
      obtain ⟨u', rfl⟩ := seam.uncons (isInk_of_isPlain (hk c hc)) h
      obtain ⟨htake, hdrop⟩ := ih (seam.step (hk c hc) h)
      have hcons := (Onward.of_append [c] (seam.step (hk c hc) h)).trans hdrop
      simpa [hc, htake] using hcons
    | false =>
      have hend : ∀ d ∈ s'.head?, kind d = false :=
        (seam.head_tight (inked hk) h).mp (by simpa using hc)
      cases s' with
      | nil => simpa [hc] using .refl h
      | cons d s' => simpa [hc, hend d rfl] using .refl h

end Characters

section Tight

lemma literal_tight (hw : word.toList.all isPlain = true) :
    Reader.Mirrors T (Reader.literal word) (Reader.literal word) where
  carries s s' a t hs h := by
    obtain rfl := Reader.literal_ok.mp h
    obtain ⟨t', rfl, ht⟩ := seam.append (List.all_eq_true.mp hw) hs
    exact ⟨t', Reader.literal_ok.mpr rfl, .of_append _ ht⟩
  refuses s s' hs hd := by
    rcases Reader.literal_cases word s' with ⟨t', rfl⟩ | hd'
    · obtain ⟨t, rfl, _⟩ := seam.append_right (List.all_eq_true.mp hw) hs
      exact (hd.not_ok (Reader.literal_of_append word t)).elim
    · exact hd'

lemma notNext_tight :
    Reader.Mirrors T (Reader.notNext isWordPart) (Reader.notNext isWordPart) where
  carries s s' a t hs h := by
    obtain ⟨hn, rfl⟩ := notNext_ok.mp h
    have hn' : NoWord s' := (seam.head_tight (inked fun _ => isPlain_of_isWordPart) hs).mp hn
    exact ⟨s', notNext_reads hn', .refl hs⟩
  refuses s s' hs hd := by
    apply notNext_declines
    intro hn'
    have hn : NoWord s := (seam.head_tight (inked fun _ => isPlain_of_isWordPart) hs).mpr hn'
    exact hd.not_ok (notNext_reads hn)

lemma keyword_tight (hw : word.toList.all isPlain = true) :
    Reader.Mirrors T (keyword word) (keyword word) :=
  (seam.literal_tight hw).bind fun _ => seam.notNext_tight

lemma runOf_tight {start : Char → Bool}
    (hstart : ∀ c, start c = true → isPlain c = true) (hk : ∀ c, kind c = true → isPlain c = true) :
    Reader.Mirrors T (runOf start kind) (runOf start kind) where
  carries s s' a t hs h := by
    cases s with
    | nil => cases h
    | cons c s =>
      cases hc : start c with
      | false =>
        rw [runOf, if_neg (by simp [hc])] at h
        cases h
      | true =>
        rw [runOf, if_pos hc] at h
        cases h
        obtain ⟨u', rfl⟩ := seam.uncons (isInk_of_isPlain (hstart c hc)) hs
        have hnext := seam.step (hstart c hc) hs
        obtain ⟨htake, hdrop⟩ := seam.run hk hnext
        refine ⟨u'.dropWhile kind, ?_, (Onward.of_append [c] hnext).trans hdrop⟩
        rw [runOf, if_pos hc, htake]
  refuses s s' hs hd := by
    apply runOf_declines.mpr
    exact (seam.head_tight (inked hstart) hs).mp (runOf_declines.mp hd)

lemma identifier_tight : Reader.Mirrors T identifier identifier := by
  rw [identifier_eq]
  exact (seam.runOf_tight (fun _ => isPlain_of_isWordStart) fun _ => isPlain_of_isWordPart).map _

lemma path_tight : Reader.Mirrors T path path := by
  have hsegment : Reader.Mirrors T (do Reader.literal "."; identifier)
      (do Reader.literal "."; identifier) :=
    (seam.literal_tight (by decide)).bind fun _ => seam.identifier_tight
  exact seam.identifier_tight.bind fun _ => hsegment.many.bind fun _ => .pure _

lemma unsigned_tight (sign : List Char) (h : T s s') :
    (unsigned sign s = none → unsigned sign s' = none) ∧
      ∀ digits t, unsigned sign s = some (digits, t) →
        ∃ t', unsigned sign s' = some (digits, t') ∧ Onward T s s' t t' := by
  by_cases hdigit : ∀ c ∈ s.head?, Numeral.isDigit c = false
  · have hdigit' : ∀ c ∈ s'.head?, Numeral.isDigit c = false :=
      (seam.head_tight (inked fun _ => isPlain_of_isDigit) h).mp hdigit
    rw [unsigned_of_not_isDigit hdigit, unsigned_of_not_isDigit hdigit']
    exact ⟨fun _ => rfl, by simp⟩
  · cases s with
    | nil => exact (hdigit (by simp)).elim
    | cons c s =>
      have hc : isPlain c = true := isPlain_of_isDigit (by simpa using hdigit)
      obtain ⟨u', rfl⟩ := seam.uncons (isInk_of_isPlain hc) h
      have hnext := seam.step hc h
      have hcons := Onward.of_append [c] hnext
      obtain ⟨htake, hdrop⟩ := seam.run (fun _ => isPlain_of_isDigit) hnext
      rw [unsigned, unsigned, htake]
      -- Both texts take the branch that their first digit decides.
      split
      · refine ⟨by simp, ?_⟩
        rintro _ _ ⟨⟩
        exact ⟨_, rfl, hcons.trans hdrop⟩
      · split
        · refine ⟨by simp, ?_⟩
          rintro _ _ ⟨⟩
          exact ⟨_, rfl, hcons⟩
        · exact ⟨fun _ => rfl, by simp⟩

lemma integerNumeral_tight (h : T s s') :
    (integerNumeral s = none → integerNumeral s' = none) ∧
      ∀ digits t, integerNumeral s = some (digits, t) →
        ∃ t', integerNumeral s' = some (digits, t') ∧ Onward T s s' t t' := by
  by_cases hsign : ∀ c ∈ s.head?, isSign c = false
  · have hsign' : ∀ c ∈ s'.head?, isSign c = false :=
      (seam.head_tight (inked fun _ => isPlain_of_isSign) h).mp hsign
    rw [integerNumeral_unsigned hsign, integerNumeral_unsigned hsign']
    exact seam.unsigned_tight [] h
  · cases s with
    | nil => exact (hsign (by simp)).elim
    | cons c s =>
      have hc : isSign c = true := by simpa using hsign
      obtain ⟨u', rfl⟩ := seam.uncons (isInk_of_isPlain (isPlain_of_isSign hc)) h
      have hnext := seam.step (isPlain_of_isSign hc) h
      obtain ⟨hnone, hsome⟩ := seam.unsigned_tight [c] hnext
      rw [integerNumeral_signed hc, integerNumeral_signed hc]
      refine ⟨hnone, ?_⟩
      intro digits t ht
      obtain ⟨t', ht', hon⟩ := hsome digits t ht
      exact ⟨t', ht', (Onward.of_append [c] hnext).trans hon⟩

lemma integer_tight : Reader.Mirrors T integer integer where
  carries s s' n t hs h := by
    obtain ⟨digits, hnumeral, hn⟩ := integer_ok.mp h
    obtain ⟨t', hnumeral', ht⟩ := (seam.integerNumeral_tight hs).2 digits t hnumeral
    exact ⟨t', integer_ok.mpr ⟨digits, hnumeral', hn⟩, ht⟩
  refuses s s' hs hd := by
    obtain ⟨hnone, hsome⟩ := seam.integerNumeral_tight hs
    rcases integer_declines.mp hd with hn | ⟨digits, t, hn, hi⟩
    · exact integer_declines.mpr (.inl (hnone hn))
    · obtain ⟨t', hn', _⟩ := hsome digits t hn
      exact integer_declines.mpr (.inr ⟨digits, t', hn', hi⟩)

lemma stringLiteral_tight : Reader.Carries T stringLiteral stringLiteral := by
  intro s s' text t hs h
  obtain ⟨r, chars, rfl, hr, rfl⟩ := stringLiteral_ok.mp h
  obtain ⟨r', rfl⟩ := seam.uncons rfl hs
  obtain ⟨t', hr', ht⟩ := seam.quoted hs hr
  have hlt := untilQuote_length hr
  have hlt' := untilQuote_length hr'
  refine ⟨t', stringLiteral_ok.mpr ⟨r', chars, rfl, hr', rfl⟩, ht, ?_, ?_, ?_⟩ <;>
    simp only [List.length_cons] <;> omega

end Tight

section Loose

lemma loosen_carries (hp : Reader.Carries T p p)
    (hgap : ∀ s, AtGap s → p.Declines s) : Reader.Carries R p p := by
  intro s s' a t hs ha
  rcases seam.tight hs with hs | ⟨hs, _⟩
  · obtain ⟨t', ha', ht⟩ := hp hs ha
    exact ⟨t', ha', ht.mono (seam.loosen ht.related)⟩
  · exact ((hgap s hs).not_ok ha).elim

lemma loosen_mirrors (hp : Reader.Mirrors T p p)
    (hgap : ∀ s, AtGap s → p.Declines s) (hrule : ∀ s, AtRule s → p.Declines s) :
    Reader.Mirrors R p p where
  carries := seam.loosen_carries hp.carries hgap
  refuses s s' hs hd := by
    rcases seam.tight hs with hs | ⟨_, hs⟩
    · exact hp.refuses hs hd
    · exact hrule s' hs

lemma layout_mirrors : Reader.Mirrors R layout layout where
  carries := by
    rintro s s' a t hs ⟨⟩
    exact ⟨_, rfl, seam.skip hs⟩
  refuses := by
    rintro s s' hs ⟨_, _, ⟨⟩⟩

lemma literal_mirrors (hw : isToken word = true) :
    Reader.Mirrors R (Reader.literal word) (Reader.literal word) := by
  obtain ⟨hplain, hgap, hrule⟩ := literal_of_isToken hw
  exact seam.loosen_mirrors (seam.literal_tight hplain) hgap hrule

lemma keyword_mirrors (hw : isToken word = true) :
    Reader.Mirrors R (keyword word) (keyword word) := by
  obtain ⟨hplain, hgap, hrule⟩ := literal_of_isToken hw
  exact seam.loosen_mirrors (seam.keyword_tight hplain) (fun s hs => (hgap s hs).bind) fun s hs =>
    (hrule s hs).bind

lemma rule_carries : Reader.Carries R (keyword "rule") (keyword "rule") := by
  apply seam.loosen_carries (seam.keyword_tight (by decide)).carries
  intro s hs
  apply keyword_declines_of_head rfl
  rintro c hc rfl
  cases hs 'r' hc

lemma identifier_carries : Reader.Carries R identifier identifier :=
  seam.loosen_carries seam.identifier_tight.carries fun _ => identifier_of_atGap

lemma path_carries : Reader.Carries R path path :=
  seam.loosen_carries seam.path_tight.carries fun _ hs => (identifier_of_atGap hs).bind

lemma typeName_mirrors : Reader.Mirrors R typeName typeName := by
  apply seam.loosen_mirrors (seam.identifier_tight.filter _)
  · intro s hs
    exact Reader.filter_declines.mpr (.inl (identifier_of_atGap hs))
  -- The word that starts a rule is reserved.
  · rintro s (rfl | ⟨rest, rfl, hr⟩)
    · exact ⟨_, _, rfl⟩
    · have hread : identifier ("rule".toList ++ rest) = .ok "rule" rest :=
        identifier_reads (by decide) hr
      exact Reader.filter_declines.mpr (.inr ⟨_, _, hread, by decide⟩)

lemma charsOf_mirrors (hk : ∀ c, kind c = true → isPlain c = true)
    (hr : kind 'r' = false) :
    Reader.Mirrors R (Reader.charsOf kind) (Reader.charsOf kind) := by
  rw [charsOf_eq]
  apply seam.loosen_mirrors (seam.runOf_tight hk hk)
  · intro s hs
    exact runOf_declines.mpr (hs.head (inked hk))
  · intro s hs
    apply runOf_declines.mpr
    intro c hc
    rwa [hs.head c hc]

lemma integer_mirrors : Reader.Mirrors R integer integer := by
  apply seam.loosen_mirrors seam.integer_tight
  · intro s hs
    exact integer_declines_of_head (hs.head (inked fun _ => isPlain_of_isSign))
      (hs.head (inked fun _ => isPlain_of_isDigit))
  · intro s hs
    apply integer_declines_of_head <;> intro c hc <;> rw [hs.head c hc] <;> rfl

lemma stringLiteral_carries : Reader.Carries R stringLiteral stringLiteral := by
  apply seam.loosen_carries seam.stringLiteral_tight
  intro s hs
  apply stringLiteral_declines
  rintro c hc rfl
  cases hs _ hc

lemma stringLiteral_refuses (hs : R s s') (h : ∀ c ∈ s.head?, c ≠ '"') :
    stringLiteral.Declines s' := by
  have hquote : ∀ c ∈ s'.head?, (c == '"') = false := by
    apply seam.head_loose _ rfl hs (by simpa using h)
    intro c hc
    rw [beq_iff_eq.mp hc]
    rfl
  exact stringLiteral_declines (by simpa using hquote)

end Loose

end Seam

end Antecedent.Source
