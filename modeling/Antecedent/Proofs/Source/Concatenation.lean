import Antecedent.Proofs.Source.Grammar
import Antecedent.Proofs.Source.RoundTrip

/-! Texts of rules one below the other: the last rule of the first text ends where that text does,
whatever optional part it lacks and whatever comment it ends in. -/

namespace Antecedent.Source

variable {after s s' t u : List Char}

section Break

lemma skipFrom_break (comment : Option (List Char)) (s : List Char)
    (h : ∀ mark ∈ comment, mark.head? = some '#') :
    (skipFrom comment s ≠ [] ∧ skipFrom (comment.map (· ++ '\n' :: after)) (s ++ '\n' :: after) =
        skipFrom comment s ++ '\n' :: after) ∨
      skipFrom (comment.map (· ++ '\n' :: after)) (s ++ '\n' :: after) = skipLayout after ∧
        ∀ c ∈ (skipFrom comment s).head?, c = '#' := by
  fun_induction skipFrom comment s with
  | case1 comment => cases comment <;> exact .inr ⟨rfl, by simp⟩
  | case2 c rest hb ih => simpa [skipFrom, hb] using ih (by simp)
  | case3 rest hb ih => simpa [skipFrom, hb] using ih (by simp)
  | case4 c rest hb hc => simp [skipFrom, hb, hc]
  | case5 mark rest ih => simpa [skipFrom] using ih (by simp)
  | case6 mark rest hr hn ih =>
    have hr' : (rest ++ '\n' :: after).head? = some '\n' := by simp [hr]
    simpa [skipFrom, hr'] using ih (by simp)
  | case7 mark rest hr hn =>
    have hmark := h mark rfl
    cases rest with
    | nil => exact .inr ⟨rfl, by simp [hmark]⟩
    | cons d rest =>
      have hne : mark ≠ [] := by
        rintro rfl
        cases hmark
      have hd : d ≠ '\n' := by simpa using hr
      exact .inl ⟨hne, by simp [skipFrom, hd]⟩
  | case8 mark c rest hn hr ih => simpa [skipFrom, hn, hr] using ih h

lemma skipLayout_break (after s : List Char) :
    (skipLayout s ≠ [] ∧ skipLayout (s ++ '\n' :: after) = skipLayout s ++ '\n' :: after) ∨
      skipLayout (s ++ '\n' :: after) = skipLayout after ∧ ∀ c ∈ (skipLayout s).head?, c = '#' :=
  skipFrom_break none s (by simp)

lemma untilQuote_append {text : List Char} (h : untilQuote s = some (text, t)) (r : List Char) :
    untilQuote (s ++ r) = some (text, t ++ r) := by
  fun_induction untilQuote s generalizing text with
  | case1 => cases h
  | case2 rest =>
    cases h
    rfl
  | case3 => cases h
  | case4 c rest ih =>
    obtain ⟨⟨text, after⟩, hq, he⟩ := Option.map_eq_some_iff.mp h
    cases he
    simp [untilQuote, ih hq]
  | case5 c rest hquote hslash hpair ih =>
    obtain ⟨⟨text, after⟩, hq, he⟩ := Option.map_eq_some_iff.mp h
    cases he
    have hback : c ≠ '\\' := by
      intro hc
      cases rest with
      | nil => exact hslash hc rfl
      | cons d rest => exact hpair d rest hc rfl
    rw [List.cons_append, untilQuote_cons hquote hback, ih hq]
    rfl

end Break

section Extended

/-- A text, and the same text with a line break and other lines behind it. Once layout has been
skipped up to the end of the first text, it has been skipped in front of the other lines, too. A
comment that ends in a stray carriage return is no layout there, but the line break makes it
one. -/
inductive Extended (after : List Char) : List Char → List Char → Prop
  | behind (s : List Char) : Extended after s (s ++ '\n' :: after)
  | past {s : List Char} : skipLayout s = s → (∀ c ∈ s.head?, c = '#') →
      Extended after s (skipLayout after)

lemma Extended.skip (h : Extended after s s') :
    Onward (Extended after) s s' (skipLayout s) (skipLayout s') := by
  cases h with
  | behind =>
    have hle := skipLayout_length_le s
    have hle' := skipLayout_length_le (s ++ '\n' :: after)
    rcases skipLayout_break after s with ⟨_, he⟩ | ⟨he, hs⟩
    · refine ⟨he ▸ .behind _, hle, hle', ?_⟩
      rw [he, List.length_append, List.length_append]
      omega
    · refine ⟨he ▸ .past (skipLayout_idem s) hs, hle, hle', ?_⟩
      have hafter := skipLayout_length_le after
      rw [he, List.length_append, List.length_cons]
      omega
  | past hskip hs =>
    rw [hskip, skipLayout_idem]
    exact .refl (.past hskip hs)

lemma extended_seam (h : AtRule (skipLayout after)) :
    Seam (Extended after) fun s s' => s' = s ++ '\n' :: after where
  loosen := by
    rintro s s' rfl
    exact .behind s
  tight := by
    rintro s s' (_ | ⟨_, hs⟩)
    · exact .inl rfl
    · refine .inr ⟨?_, h⟩
      intro c hc
      rw [hs c hc]
      rfl
  skip := Extended.skip
  head := by
    rintro s s' rfl
    cases s with
    | nil =>
      refine .inr ⟨by simp [AtGap], ?_⟩
      rintro c ⟨⟩
      rfl
    | cons c s => exact .inl rfl
  step := by
    rintro c s s' _ ⟨⟩
    rfl
  quoted := by
    rintro s s' text t ⟨⟩ ht
    exact ⟨_, untilQuote_append ht _, rfl⟩

lemma Extended.skipLayout_eq (h : Extended after s s') (hs : skipLayout s = []) :
    skipLayout s' = skipLayout after := by
  cases h with
  | behind =>
    rcases skipLayout_break after s with ⟨hne, _⟩ | ⟨he, _⟩
    · exact (hne hs).elim
    · exact he
  | past => exact skipLayout_idem after

end Extended

section Definitions

variable {d : Definition} {ds : List Definition}

lemma definition_ok (h : definition s = .ok d t) :
    ∃ r, skipLayout s = "rule".toList ++ r ∧ NoWord r ∧ afterRule r = .ok d t := by
  rw [definition_eq] at h
  obtain ⟨_, _, ⟨⟩, h⟩ := Reader.bind_ok.mp h
  obtain ⟨_, r, hword, h⟩ := Reader.bind_ok.mp h
  obtain ⟨hskip, hr⟩ := keyword_ok.mp hword
  exact ⟨r, hskip, hr, h⟩

lemma definition_length (h : definition s = .ok d t) : t.length < (skipLayout s).length := by
  obtain ⟨r, hr, _, hbody⟩ := definition_ok h
  have seam : Seam (Extended []) fun s s' => s' = s ++ ['\n'] := extended_seam (.inl rfl)
  obtain ⟨_, _, hon⟩ := seam.afterRule_carries (.behind r) hbody
  have hle := hon.le
  rw [hr, List.length_append]
  have hword : "rule".toList.length = 4 := rfl
  omega

lemma definitions_leads (h : skipLayout s = skipLayout s')
    (hs : Reader.many definition s = .ok ds u) :
    ∃ u', Reader.many definition s' = .ok ds u' ∧ skipLayout u' = skipLayout u := by
  rcases Reader.many_ok hs with ⟨rfl, rfl, hd⟩ | ⟨d, more, t, rfl, hd, _, hmore⟩
  · obtain ⟨expected, rest, hd⟩ := hd
    rw [definition_leads _ _ h] at hd
    exact ⟨s', Reader.many_of_declines ⟨expected, rest, hd⟩, h.symm⟩
  · have hlt := definition_length hd
    have hle := skipLayout_length_le s'
    rw [definition_leads _ _ h] at hd
    rw [h] at hlt
    exact ⟨u, Reader.many_of_ok hd (Nat.lt_of_lt_of_le hlt hle) hmore, rfl⟩

lemma atRule_of_definitions (h : Reader.many definition s = .ok ds u) (hu : skipLayout u = []) :
    AtRule (skipLayout s) := by
  rcases Reader.many_ok h with ⟨_, rfl, _⟩ | ⟨d, _, t, _, hd, _⟩
  · exact .inl hu
  · obtain ⟨r, hr, hword, _⟩ := definition_ok hd
    exact .inr ⟨r, hr, hword⟩

lemma parse_ok {text : String} : parse text = .ok ds ↔
    ∃ u, Reader.many definition text.toList = .ok ds u ∧ skipLayout u = [] := by
  constructor
  · intro h
    rw [parse] at h
    split at h
    · next hdocument =>
      cases h
      obtain ⟨_, rest, hds, hend⟩ := Reader.bind_ok.mp hdocument
      obtain ⟨_, _, hfinish, hpure⟩ := Reader.bind_ok.mp hend
      obtain ⟨rfl, _⟩ := Reader.pure_ok.mp hpure
      obtain ⟨_, u, hmany, hskip⟩ := Reader.bind_ok.mp hds
      cases hskip
      refine ⟨u, hmany, ?_⟩
      rw [endOfText] at hfinish
      split at hfinish
      · next hempty => simpa using hempty
      · cases hfinish
    · cases h
  · rintro ⟨u, hmany, hu⟩
    apply parse_of_definitions
    refine (Reader.bind_of_ok hmany).trans ?_
    exact congrArg (Reply.ok ds) hu

end Definitions

end Antecedent.Source

namespace Antecedent

theorem parse_concatenation {s₁ s₂ : String} {ds₁ ds₂ : List Definition}
    (h₁ : Source.parse s₁ = .ok ds₁) (h₂ : Source.parse s₂ = .ok ds₂) :
    Source.parse (s₁ ++ "\n" ++ s₂) = .ok (ds₁ ++ ds₂) := by
  obtain ⟨u, hu, hend⟩ := Source.parse_ok.mp h₁
  obtain ⟨v, hv, hend'⟩ := Source.parse_ok.mp h₂
  have seam := Source.extended_seam (Source.atRule_of_definitions hv hend')
  obtain ⟨_, u', hon, hgo⟩ := seam.definition_carries.many_append (.behind s₁.toList) hu
  have hskip := hon.related.skipLayout_eq hend
  obtain ⟨v', hv', hrest⟩ := Source.definitions_leads hskip.symm hv
  have htext : (s₁ ++ "\n" ++ s₂).toList = s₁.toList ++ '\n' :: s₂.toList := by simp
  apply Source.parse_ok.mpr
  refine ⟨v', ?_, hrest.trans hend'⟩
  rw [htext]
  exact hgo ds₂ v' hv'

def openEnded : String :=
  -- The last clause is a mere modifier, and the comment is not closed.
  "rule first (priority 3):\nOrder :o where \x7b total > 10, \x7d and not collect # any"

def twoRules : String := "# next\n\nrule second: is_a\trule third: (exists or Quote)\r\n"

def ruleNames (text : String) : Option (List String) :=
  (Source.parse text).toOption.map fun ds => ds.map Definition.name

lemma exists_of_ruleNames {text : String} {names : List String} (h : ruleNames text = some names) :
    ∃ ds, Source.parse text = .ok ds ∧ ds.map Definition.name = names := by
  rw [ruleNames] at h
  cases hp : Source.parse text with
  | error e =>
    rw [hp] at h
    cases h
  | ok ds =>
    rw [hp] at h
    exact ⟨ds, rfl, Option.some.inj h⟩

theorem openEnded_twoRules : ∃ ds₁ ds₂,
    (Source.parse openEnded = .ok ds₁ ∧ ds₁.map Definition.name = ["first"]) ∧
      (Source.parse twoRules = .ok ds₂ ∧ ds₂.map Definition.name = ["second", "third"]) ∧
        Source.parse (openEnded ++ "\n" ++ twoRules) = .ok (ds₁ ++ ds₂) := by
  have hfirst : ruleNames openEnded = some ["first"] := by decide +kernel
  have hothers : ruleNames twoRules = some ["second", "third"] := by decide +kernel
  obtain ⟨ds₁, h₁, hnames₁⟩ := exists_of_ruleNames hfirst
  obtain ⟨ds₂, h₂, hnames₂⟩ := exists_of_ruleNames hothers
  exact ⟨ds₁, ds₂, ⟨h₁, hnames₁⟩, ⟨h₂, hnames₂⟩, parse_concatenation h₁ h₂⟩

end Antecedent
