import Antecedent.Proofs.Source.Concatenation

/-! Layout in place of other layout: outside of quotes and comments, a gap between two words is read
the same way whatever blanks and comments it is made of. -/

namespace Antecedent.Source

variable {a b w w' s s' t : List Char} {c : Char}

section Scanning

inductive Mode where
  | outside | quoted | escaped | comment
  deriving DecidableEq

def Mode.next : Mode → Char → Mode
  | .outside, c => if c = '"' then .quoted else if c = '#' then .comment else .outside
  | .quoted, c => if c = '"' then .outside else if c = '\\' then .escaped else .quoted
  | .escaped, _ => .quoted
  | .comment, c => if c = '\n' then .outside else .comment

def Mode.after (m : Mode) (s : List Char) : Mode := s.foldl next m

def Closed (s : List Char) : Prop := Mode.outside.after s = .outside

instance (s : List Char) : Decidable (Closed s) := inferInstanceAs (Decidable (_ = _))

lemma after_cons (m : Mode) (c : Char) (s : List Char) :
    m.after (c :: s) = (m.next c).after s := rfl

lemma closed_cons (hquote : c ≠ '"') (hhash : c ≠ '#') : Closed (c :: s) ↔ Closed s := by
  rw [Closed, after_cons, Mode.next, if_neg hquote, if_neg hhash]
  rfl

lemma closed_cons_of_isPlain (h : isPlain c = true) : Closed (c :: s) ↔ Closed s := by
  simp only [isPlain, isInk, Bool.and_eq_true, bne_iff_ne] at h
  exact closed_cons h.2 h.1.2

lemma closed_cons_of_isBlank (h : isBlank c = true) : Closed (c :: s) ↔ Closed s := by
  apply closed_cons
  · rintro rfl
    cases h
  · rintro rfl
    cases h

lemma skipFrom_closed (comment : Option (List Char)) (s : List Char)
    (hmark : ∀ mark ∈ comment, Closed mark ∧ Mode.comment.after s = .outside)
    (hnone : comment = none → Closed s) :
    (∃ r, Closed r ∧ ∀ t, skipFrom (comment.map (· ++ t)) (s ++ t) = r ++ t) ∨
      ∀ t, skipFrom (comment.map (· ++ t)) (s ++ t) = skipLayout t := by
  fun_induction skipFrom comment s with
  | case1 comment =>
    cases comment with
    | none => exact .inr fun t => rfl
    | some mark => cases (hmark mark rfl).2
  | case2 c rest hb ih =>
    have hrest : Closed rest := (closed_cons_of_isBlank hb).mp (hnone rfl)
    simpa [skipFrom, hb] using ih (by simp) fun _ => hrest
  | case3 rest hb ih =>
    have hclosed := hnone rfl
    have hinside : Mode.comment.after rest = .outside := hclosed
    simpa [skipFrom, hb] using ih (by simpa using ⟨hclosed, hinside⟩) (by simp)
  | case4 c rest hb hc =>
    refine .inl ⟨c :: rest, hnone rfl, fun t => ?_⟩
    simp [skipFrom, hb, hc]
  | case5 mark rest ih =>
    have hrest : Closed rest := (hmark mark rfl).2
    simpa [skipFrom] using ih (by simp) fun _ => hrest
  | case6 mark rest hr hn ih =>
    have hrest : Closed rest := by
      obtain ⟨more, rfl⟩ := List.head?_eq_some_iff.mp hr
      exact (hmark mark rfl).2
    have hr' : ∀ t, (rest ++ t).head? = some '\n' := by simp [hr]
    simpa [skipFrom, hr'] using ih (by simp) fun _ => hrest
  | case7 mark rest hr hn =>
    obtain ⟨hclosed, hinside⟩ := hmark mark rfl
    refine .inl ⟨mark, hclosed, fun t => ?_⟩
    cases rest with
    | nil => cases hinside
    | cons d rest =>
      have hd : d ≠ '\n' := by simpa using hr
      simp [skipFrom, hd]
  | case8 mark c rest hn hr ih =>
    obtain ⟨hclosed, hinside⟩ := hmark mark rfl
    rw [after_cons, Mode.next, if_neg hn] at hinside
    simpa [skipFrom, hn, hr] using ih (by simpa using ⟨hclosed, hinside⟩) (by simp)

lemma skipLayout_closed (h : Closed s) :
    (∃ r, Closed r ∧ ∀ t, skipLayout (s ++ t) = r ++ t) ∨
      ∀ t, skipLayout (s ++ t) = skipLayout t :=
  skipFrom_closed none s (by simp) fun _ => h

lemma untilQuote_closed (h : Mode.quoted.after s = .outside) :
    ∃ text r, Closed r ∧ ∀ t, untilQuote (s ++ t) = some (text, r ++ t) := by
  fun_induction untilQuote s with
  | case1 => cases h
  | case2 rest => exact ⟨[], rest, h, fun t => rfl⟩
  | case3 => cases h
  | case4 c rest ih =>
    obtain ⟨text, r, hr, ht⟩ := ih h
    exact ⟨unescape c ++ text, r, hr, fun t => by simp [untilQuote, ht]⟩
  | case5 c rest hquote hslash hpair ih =>
    have hback : c ≠ '\\' := by
      intro hc
      cases rest with
      | nil => exact hslash hc rfl
      | cons d rest => exact hpair d rest hc rfl
    rw [after_cons, Mode.next, if_neg hquote, if_neg hback] at h
    obtain ⟨text, r, hr, ht⟩ := ih h
    refine ⟨c :: text, r, hr, fun t => ?_⟩
    rw [List.cons_append, untilQuote_cons hquote hback, ht]
    rfl

end Scanning

section Runs

inductive IsLayout : List Char → Prop
  | nil : IsLayout []
  | blank {c : Char} {w : List Char} : c ∈ [' ', '\t', '\n', '\x0c', '\r'] → IsLayout w →
      IsLayout (c :: w)
  | comment (text : List Char) {w : List Char} : (∀ c ∈ text, c ≠ '\n' ∧ c ≠ '\r') → IsLayout w →
      IsLayout ('#' :: (text ++ '\n' :: w))

lemma isBlank_of_mem (h : c ∈ [' ', '\t', '\n', '\x0c', '\r']) : isBlank c = true := by
  simpa [isBlank, or_assoc] using h

lemma skipFrom_comment {text : List Char} (h : ∀ c ∈ text, c ≠ '\n' ∧ c ≠ '\r')
    (mark s : List Char) : skipFrom (some mark) (text ++ '\n' :: s) = skipLayout s := by
  induction text with
  | nil => rfl
  | cons c text ih =>
    obtain ⟨hc, htext⟩ := List.forall_mem_cons.mp h
    rw [List.cons_append, skipFrom, if_neg hc.1, if_neg hc.2]
    exact ih htext

lemma IsLayout.skipLayout_append (h : IsLayout w) (s : List Char) :
    skipLayout (w ++ s) = skipLayout s := by
  induction h with
  | nil => rfl
  | @blank c w hc _ ih =>
    rw [← ih, List.cons_append, skipLayout, skipFrom, if_pos (isBlank_of_mem hc)]
    rfl
  | @comment text w htext _ ih =>
    rw [← ih, List.cons_append, List.append_assoc, List.cons_append]
    exact skipFrom_comment htext _ _

structure Gap (w : List Char) : Prop where
  layout : IsLayout w
  nonempty : w ≠ []

lemma Gap.atGap (h : Gap w) (s : List Char) : AtGap (w ++ s) := by
  obtain ⟨hlayout, hne⟩ := h
  cases hlayout with
  | nil => exact (hne rfl).elim
  | blank hc _ =>
    rintro c ⟨⟩
    simp [isInk, isBlank_of_mem hc]
  | comment _ _ _ =>
    rintro c ⟨⟩
    rfl

end Runs

section Relaid

/-- Two texts with different layout at one place, or the same text behind that place. -/
inductive Relaid (w w' b : List Char) : List Char → List Char → Prop
  | before {a : List Char} : Closed a → Relaid w w' b (a ++ (w ++ b)) (a ++ (w' ++ b))
  | behind (s : List Char) : Relaid w w' b s s

variable (hw : Gap w) (hw' : Gap w')

include hw

lemma Relaid.eq_nil (h : Relaid w w' b [] s') : s' = [] := by
  generalize he : ([] : List Char) = e at h
  cases h with
  | behind => rfl
  | before _ =>
    have hnil := List.append_eq_nil_iff.mp (List.append_eq_nil_iff.mp he.symm).2
    exact (hw.nonempty hnil.1).elim

lemma Relaid.uncons (h : Relaid w w' b (c :: s) s') (hc : isInk c = true) :
    (∃ a, Closed (c :: a) ∧ s = a ++ (w ++ b) ∧ s' = c :: (a ++ (w' ++ b))) ∨ s' = c :: s := by
  generalize he : c :: s = r at h
  cases h with
  | behind => exact .inr rfl
  | @before a ha =>
    cases a with
    | nil =>
      have hgap := hw.atGap b
      rw [List.nil_append] at he
      rw [hgap c (by rw [← he]; rfl)] at hc
      cases hc
    | cons d a =>
      obtain ⟨rfl, rfl⟩ := List.cons.inj he
      exact .inl ⟨a, ha, rfl, rfl⟩

include hw'

lemma Relaid.skip (h : Relaid w w' b s s') :
    Onward (Relaid w w' b) s s' (skipLayout s) (skipLayout s') := by
  have hle := skipLayout_length_le s
  have hle' := skipLayout_length_le s'
  cases h with
  | behind => exact ⟨.behind _, hle, hle, id⟩
  | @before a ha =>
    rcases skipLayout_closed ha with ⟨r, hr, hskip⟩ | hskip
    · rw [hskip] at hle hle' ⊢
      rw [hskip]
      refine ⟨.before hr, hle, hle', ?_⟩
      simp only [List.length_append]
      omega
    · rw [hskip, hw.layout.skipLayout_append] at hle ⊢
      rw [hskip, hw'.layout.skipLayout_append] at hle' ⊢
      refine ⟨.behind _, hle, hle', fun _ => ?_⟩
      have hb := skipLayout_length_le b
      have hpos := List.length_pos_iff.mpr hw'.nonempty
      simp only [List.length_append]
      omega

lemma relaid_seam (b : List Char) : Seam (Relaid w w' b) (Relaid w w' b) where
  loosen := id
  tight := .inl
  skip := Relaid.skip hw hw'
  head := by
    intro s s' h
    cases h with
    | behind => exact .inl rfl
    | @before a ha =>
      cases a with
      | nil => exact .inr ⟨hw.atGap b, hw'.atGap b⟩
      | cons c a => exact .inl rfl
  step := by
    intro c s s' hc h
    rcases Relaid.uncons hw h (isInk_of_isPlain hc) with ⟨a, ha, rfl, he⟩ | he
    · obtain ⟨_, rfl⟩ := List.cons.inj he
      exact .before ((closed_cons_of_isPlain hc).mp ha)
    · obtain ⟨_, rfl⟩ := List.cons.inj he
      exact .behind _
  quoted := by
    intro s s' text t h ht
    rcases Relaid.uncons hw h rfl with ⟨a, ha, rfl, he⟩ | he
    · obtain ⟨_, rfl⟩ := List.cons.inj he
      obtain ⟨text', r, hr, hquote⟩ := untilQuote_closed ha
      rw [hquote] at ht
      cases ht
      exact ⟨r ++ (w' ++ b), hquote _, .before hr⟩
    · obtain ⟨_, rfl⟩ := List.cons.inj he
      exact ⟨t, ht, .behind t⟩

lemma Relaid.definitions {ds : List Definition} {u : List Char} (h : Relaid w w' b s s')
    (hs : Reader.many definition s = .ok ds u) (hu : skipLayout u = []) :
    ∃ u', Reader.many definition s' = .ok ds u' ∧ skipLayout u' = [] := by
  have seam := relaid_seam hw hw' b
  obtain ⟨_, u', hon, hgo⟩ := seam.definition_carries.many_append h hs
  have hend : skipLayout u' = [] := by
    have hrest := (hon.related.skip hw hw').related
    rw [hu] at hrest
    exact hrest.eq_nil hw
  have hdeclines : definition.Declines u' := ⟨_, _, definition_leads u' [] hend⟩
  have hmore := hgo [] u' (Reader.many_of_declines hdeclines)
  rw [List.append_nil] at hmore
  exact ⟨u', hmore, hend⟩

end Relaid

lemma parse_relaid {a b w w' : String} (ha : Closed a.toList) (hw : Gap w.toList)
    (hw' : Gap w'.toList) {ds : List Definition} (h : parse (a ++ w ++ b) = .ok ds) :
    parse (a ++ w' ++ b) = .ok ds := by
  have htext : ∀ v : String, (a ++ v ++ b).toList = a.toList ++ (v.toList ++ b.toList) := by
    intro v
    simp
  obtain ⟨u, hmany, hu⟩ := parse_ok.mp h
  rw [htext] at hmany
  obtain ⟨u', hmany', hu'⟩ := Relaid.definitions hw hw' (.before ha) hmany hu
  apply parse_ok.mpr
  rw [htext]
  exact ⟨u', hmany', hu'⟩

end Antecedent.Source

namespace Antecedent

theorem parse_layout {a b w w' : String} (ha : Source.Closed a.toList)
    (hw : Source.IsLayout w.toList) (hne : w ≠ "") (hw' : Source.IsLayout w'.toList)
    (hne' : w' ≠ "") :
    (∃ ds, Source.parse (a ++ w ++ b) = .ok ds ∧ Source.parse (a ++ w' ++ b) = .ok ds) ∨
      ∃ e e', Source.parse (a ++ w ++ b) = .error e ∧ Source.parse (a ++ w' ++ b) = .error e' := by
  have hgap : Source.Gap w.toList := ⟨hw, by simpa using hne⟩
  have hgap' : Source.Gap w'.toList := ⟨hw', by simpa using hne'⟩
  cases h : Source.parse (a ++ w ++ b) with
  | ok ds => exact .inl ⟨ds, rfl, Source.parse_relaid ha hgap hgap' h⟩
  | error e =>
    cases h' : Source.parse (a ++ w' ++ b) with
    | error e' => exact .inr ⟨e, e', rfl, rfl⟩
    | ok ds =>
      have hback := Source.parse_relaid ha hgap' hgap h'
      rw [h] at hback
      cases hback

def untilName : String :=
  -- A quote in a comment, then a comment mark and an escaped quote in a string. What follows the
  -- last word has to stand apart from it.
  "# an \"open quote\nrule first: Order where \x7b note == \"# \\\"\" \x7d\nrule"

theorem untilName_gaps : Source.Closed untilName.toList ∧
    ∃ ds, ds.map Definition.name = ["first", "second"] ∧
      Source.parse (untilName ++ "\t" ++ "second: Quote") = .ok ds ∧
        Source.parse (untilName ++ " # the \"name\n\r\n" ++ "second: Quote") = .ok ds := by
  have hclosed : Source.Closed untilName.toList := by decide +kernel
  have htab : Source.IsLayout "\t".toList := .blank (by decide) .nil
  have hnote : Source.IsLayout " # the \"name\n\r\n".toList :=
    .blank (by decide) (.comment " the \"name".toList (by simp)
      (.blank (by decide) (.blank (by decide) .nil)))
  have hnames : ruleNames (untilName ++ "\t" ++ "second: Quote") = some ["first", "second"] := by
    decide +kernel
  obtain ⟨ds, hparse, hds⟩ := exists_of_ruleNames hnames
  refine ⟨hclosed, ds, hds, hparse, ?_⟩
  rcases parse_layout (b := "second: Quote") hclosed htab (by decide) hnote (by decide) with
    ⟨ds', h, h'⟩ | ⟨e, e', h, _⟩
  · rw [hparse] at h
    cases h
    exact h'
  · rw [hparse] at h
    cases h

end Antecedent
