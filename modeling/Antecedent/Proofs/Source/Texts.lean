import Antecedent.Proofs.Source.Words

namespace Antecedent.Source

variable {c : Char} {cs more : List Char} {text : String}

def readBack (c : Char) : List Char := if isReadable c then [c] else Quoted.escape c

section Escapes

lemma untilQuote_cons (hquote : c ≠ '"') (hslash : c ≠ '\\') :
    untilQuote (c :: more) = (untilQuote more).map fun (text, after) => (c :: text, after) := by
  rw [untilQuote.eq_def]
  split
  · next he => cases he
  · next he =>
    cases he
    exact (hquote rfl).elim
  · next he =>
    cases he
    exact (hslash rfl).elim
  · next he =>
    cases he
    exact (hslash rfl).elim
  · next he =>
    cases he
    rfl

lemma untilQuote_plain (h : ∀ c ∈ cs, c ≠ '"' ∧ c ≠ '\\') :
    untilQuote (cs ++ more) = (untilQuote more).map fun (text, after) => (cs ++ text, after) := by
  induction cs with
  | nil => simp
  | cons c cs ih =>
    obtain ⟨hc, hcs⟩ := List.forall_mem_cons.mp h
    rw [List.cons_append, untilQuote_cons hc.1 hc.2, ih hcs, Option.map_map]
    rfl

lemma hexDigit_plain : ∀ n < 16, n.digitChar ≠ '"' ∧ n.digitChar ≠ '\\' := by decide

lemma hexDigits_plain (n : Nat) : ∀ c ∈ Nat.toDigits 16 n, c ≠ '"' ∧ c ≠ '\\' := by
  induction n using Nat.strongRecOn with
  | ind n ih =>
    by_cases hn : n < 16
    · rw [Nat.toDigits_of_lt_base hn]
      simp [hexDigit_plain n hn]
    · rw [Nat.toDigits_of_base_le (by decide) (by omega)]
      intro c hc
      rcases List.mem_append.mp hc with hc | hc
      · exact ih (n / 16) (by omega) c hc
      · obtain rfl := List.mem_singleton.mp hc
        exact hexDigit_plain (n % 16) (by omega)

lemma ne_of_isUnprintable_or {d : Char} {b : Bool} (hc : (isUnprintable c || isExtending c) = b)
    (hd : (isUnprintable d || isExtending d) ≠ b) : c ≠ d := by
  rintro rfl
  exact hd hc

lemma escape_of_isReadable (h : isReadable c = true) :
    (c = '\t' ∨ c = '\n' ∨ c = '"' ∨ c = '\\') ∨
      Quoted.escape c = [c] ∧ c ≠ '"' ∧ c ≠ '\\' := by
  by_cases hnamed : c = '\t' ∨ c = '\n' ∨ c = '"' ∨ c = '\\'
  · exact .inl hnamed
  obtain ⟨htab, hline, hquote, hslash⟩ : c ≠ '\t' ∧ c ≠ '\n' ∧ c ≠ '"' ∧ c ≠ '\\' := by
    simpa only [not_or] using hnamed
  have hplain : (isUnprintable c || isExtending c) = false := by
    simpa [isReadable, htab, hline] using h
  have hnull : c ≠ '\x00' := ne_of_isUnprintable_or hplain (by decide)
  have hreturn : c ≠ '\r' := ne_of_isUnprintable_or hplain (by decide)
  refine .inr ⟨?_, hquote, hslash⟩
  simp [Quoted.escape, hnull, htab, hreturn, hline, hquote, hslash, hplain]

lemma escape_of_not_isReadable (h : isReadable c = false) :
    ∃ d ds, Quoted.escape c = '\\' :: d :: ds ∧ unescape d = ['\\', d] ∧
      ∀ x ∈ ds, x ≠ '"' ∧ x ≠ '\\' := by
  by_cases hnull : c = '\x00'
  · subst hnull
    exact ⟨'0', [], rfl, rfl, by simp⟩
  by_cases hreturn : c = '\r'
  · subst hreturn
    exact ⟨'r', [], rfl, rfl, by simp⟩
  obtain ⟨htab, hline, hodd⟩ :
      c ≠ '\t' ∧ c ≠ '\n' ∧ (isUnprintable c || isExtending c) = true := by
    simpa only [isReadable, Bool.or_eq_false_iff, beq_eq_false_iff_ne, Bool.not_eq_false',
      and_assoc] using h
  have hquote : c ≠ '"' := ne_of_isUnprintable_or hodd (by decide)
  have hslash : c ≠ '\\' := ne_of_isUnprintable_or hodd (by decide)
  refine ⟨'u', '\x7b' :: (Nat.toDigits 16 c.toNat ++ ['\x7d']), ?_, rfl, ?_⟩
  · simp only [Quoted.escape, hnull, htab, hreturn, hline, hquote, hslash, hodd, if_false, if_true]
  · intro x hx
    simp only [List.mem_cons, List.mem_append, List.not_mem_nil, or_false] at hx
    rcases hx with rfl | hx | rfl
    · decide
    · exact hexDigits_plain c.toNat x hx
    · decide

lemma untilQuote_escape (c : Char) (more : List Char) : untilQuote (Quoted.escape c ++ more) =
    (untilQuote more).map fun (text, after) => (readBack c ++ text, after) := by
  cases hc : isReadable c with
  | true =>
    rcases escape_of_isReadable hc with (rfl | rfl | rfl | rfl) | ⟨he, hquote, hslash⟩
    · rfl
    · rfl
    · rfl
    · rfl
    · rw [he, readBack, hc]
      exact untilQuote_cons hquote hslash
  | false =>
    obtain ⟨d, ds, he, hd, hds⟩ := escape_of_not_isReadable hc
    have hstep : untilQuote ('\\' :: d :: (ds ++ more)) =
        (untilQuote (ds ++ more)).map fun (text, after) => (unescape d ++ text, after) := rfl
    rw [readBack, hc, he, List.cons_append, List.cons_append, hstep, untilQuote_plain hds, hd,
      Option.map_map]
    rfl

end Escapes

lemma untilQuote_reads (cs rest : List Char) :
    untilQuote (cs.flatMap Quoted.escape ++ '"' :: rest) = some (cs.flatMap readBack, rest) := by
  induction cs with
  | nil => rfl
  | cons c cs ih =>
    rw [List.flatMap_cons, List.append_assoc, untilQuote_escape, ih]
    rfl

lemma length_readBack (h : isReadable c = false) : 1 < (readBack c).length := by
  obtain ⟨d, ds, he, _⟩ := escape_of_not_isReadable h
  simp [readBack, h, he]

lemma length_le_readBack (cs : List Char) : cs.length ≤ (cs.flatMap readBack).length := by
  induction cs with
  | nil => simp
  | cons c cs ih =>
    have hpos : 0 < (readBack c).length := by
      cases hc : isReadable c with
      | true => simp [readBack, hc]
      | false => exact Nat.lt_of_succ_lt (length_readBack hc)
    simp only [List.flatMap_cons, List.length_append, List.length_cons]
    omega

-- A character that is not readable makes the text longer, and nothing makes it shorter again.
lemma readBack_eq_self : cs.flatMap readBack = cs ↔ ∀ c ∈ cs, isReadable c = true := by
  induction cs with
  | nil => simp
  | cons c cs ih =>
    rw [List.flatMap_cons, List.forall_mem_cons, ← ih]
    cases hc : isReadable c with
    | true => simp [readBack, hc]
    | false =>
      have hlong := length_readBack hc
      have hle := length_le_readBack cs
      constructor
      · intro he
        have hlen := congrArg List.length he
        simp only [List.length_append, List.length_cons] at hlen
        omega
      · rintro ⟨hf, _⟩
        cases hf

lemma toList_quoted (text : String) (rest : List Char) : (quoted text).toList ++ rest =
    '"' :: (text.toList.flatMap Quoted.escape ++ '"' :: rest) := by
  simp [quoted, Quoted.encode]

lemma stringLiteral_quoted (text : String) (rest : List Char) :
    stringLiteral ((quoted text).toList ++ rest) =
      .ok (String.ofList (text.toList.flatMap readBack)) rest := by
  simp only [toList_quoted, stringLiteral, untilQuote_reads]

lemma isPrintable_iff : isPrintable text = true ↔
    ∀ rest, stringLiteral ((quoted text).toList ++ rest) = .ok text rest := by
  have htext : String.ofList (text.toList.flatMap readBack) = text ↔
      text.toList.flatMap readBack = text.toList := by
    rw [← String.toList_inj, String.toList_ofList]
  rw [isPrintable, List.all_eq_true, ← readBack_eq_self, ← htext]
  simp only [stringLiteral_quoted, Reply.ok.injEq, and_true, forall_const]

end Antecedent.Source
