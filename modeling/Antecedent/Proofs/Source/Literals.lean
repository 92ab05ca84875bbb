import Antecedent.Proofs.Source.Texts

namespace Antecedent.Source

variable {rest : List Char}

section Numerals

structure Digits (m : List Char) : Prop where
  ne_nil : m ≠ []
  isDigit : ∀ c ∈ m, Numeral.isDigit c = true

def NoNumber (rest : List Char) : Prop :=
  ∀ c ∈ rest.head?, Numeral.isDigit c = false ∧ c ≠ '.'

variable {c : Char} {n : Nat} {m : List Char}

lemma isDigit_of_mem (h : c ∈ Nat.toDigits 10 n) : Numeral.isDigit c = true :=
  Nat.isDigit_of_mem_toDigits (by decide) (by decide) h

lemma digits_toDigits (n : Nat) : Digits (Nat.toDigits 10 n) :=
  ⟨Nat.toDigits_ne_nil, fun _ => isDigit_of_mem⟩

lemma value_toDigits (n : Nat) : Numeral.value (Nat.toDigits 10 n) = n :=
  Nat.ofDigitChars_toDigits (by decide) (by decide)

lemma digitChar_bounds : ∀ n < 10, 0 < n → '1' ≤ n.digitChar ∧ n.digitChar ≤ '9' := by
  decide

lemma exists_toDigits_of_pos (h : 0 < n) :
    ∃ c cs, Nat.toDigits 10 n = c :: cs ∧ '1' ≤ c ∧ c ≤ '9' := by
  induction n using Nat.strongRecOn with
  | ind n ih =>
    by_cases hn : n < 10
    · exact ⟨n.digitChar, [], Nat.toDigits_of_lt_base hn, digitChar_bounds n hn h⟩
    · obtain ⟨c, cs, he, hc⟩ := ih (n / 10) (by omega) (by omega)
      refine ⟨c, cs ++ [(n % 10).digitChar], ?_, hc⟩
      rw [Nat.toDigits_of_base_le (by decide) (by omega), he]
      rfl

lemma toString_ofNat (n : Nat) : (toString (Int.ofNat n)).toList = Nat.toDigits 10 n :=
  Nat.toList_repr

lemma toString_negSucc (n : Nat) :
    (toString (Int.negSucc n)).toList = '-' :: Nat.toDigits 10 (n + 1) := by
  change ("-" ++ (n + 1).repr).toList = _
  rw [String.toList_append, Nat.toList_repr]
  rfl

lemma splitSign_of_isDigit {cs : List Char} (h : Numeral.isDigit c = true) :
    Numeral.splitSign (c :: cs) = (false, c :: cs) := by
  rw [Numeral.splitSign.eq_def]
  split
  · next he =>
    cases he
    cases h
  · next he =>
    cases he
    cases h
  · rfl

lemma Digits.splitSign (h : Digits m) : Numeral.splitSign m = (false, m) := by
  obtain ⟨c, cs, rfl⟩ := List.exists_cons_of_ne_nil h.ne_nil
  exact splitSign_of_isDigit (h.isDigit c List.mem_cons_self)

lemma Digits.int? (h : Digits m) {text : List Char} {negative : Bool} {i : Int}
    (hs : Numeral.splitSign text = (negative, m))
    (hi : (if negative then -(Numeral.value m : Int) else Numeral.value m) = i)
    (hmin : Int64.minValue.toInt ≤ i) (hmax : i ≤ Int64.maxValue.toInt) :
    Numeral.int? text = some (Int64.ofInt i) := by
  have hne : m.isEmpty = false := by simpa using h.ne_nil
  have hall : m.all Numeral.isDigit = true := List.all_eq_true.mpr h.isDigit
  simp only [Numeral.int?, hs, hne, hall, hi]
  rw [if_neg (by decide), if_pos ⟨hmin, hmax⟩]

lemma int?_toString {i : Int} (hmin : Int64.minValue.toInt ≤ i)
    (hmax : i ≤ Int64.maxValue.toInt) :
    Numeral.int? (toString i).toList = some (Int64.ofInt i) := by
  cases i with
  | ofNat n =>
    rw [toString_ofNat]
    have hvalue : ((Numeral.value (Nat.toDigits 10 n) : Nat) : Int) = Int.ofNat n :=
      congrArg Int.ofNat (value_toDigits n)
    exact (digits_toDigits n).int? (digits_toDigits n).splitSign hvalue hmin hmax
  | negSucc n =>
    rw [toString_negSucc]
    have hvalue : -((Numeral.value (Nat.toDigits 10 (n + 1)) : Nat) : Int) = Int.negSucc n :=
      congrArg (fun k : Nat => -(k : Int)) (value_toDigits (n + 1))
    exact (digits_toDigits (n + 1)).int? rfl hvalue hmin hmax

lemma integerNumeral_of_digit {s : List Char} (h : '1' ≤ c ∧ c ≤ '9') : integerNumeral (c :: s) =
    some (c :: s.takeWhile Numeral.isDigit, s.dropWhile Numeral.isDigit) := by
  have hplus : c ≠ '+' := by
    rintro rfl
    exact absurd h (by decide)
  have hminus : c ≠ '-' := by
    rintro rfl
    exact absurd h (by decide)
  simp [integerNumeral, hplus, hminus, h]

lemma isWordPart_of_isDigit (h : Numeral.isDigit c = true) : isWordPart c = true := by
  have hd : c.isDigit = true := h
  simp [isWordPart, Char.isAlphanum, hd]

lemma NoWord.noDigit (h : NoWord rest) : ∀ c ∈ rest.head?, Numeral.isDigit c = false := by
  intro c hc
  have hword := h c hc
  cases hd : Numeral.isDigit c with
  | false => rfl
  | true =>
    rw [isWordPart_of_isDigit hd] at hword
    cases hword

lemma Digits.run {cs : List Char} (h : Digits (c :: cs))
    (hr : ∀ d ∈ rest.head?, Numeral.isDigit d = false) :
    (cs ++ rest).takeWhile Numeral.isDigit = cs ∧
      (cs ++ rest).dropWhile Numeral.isDigit = rest := by
  obtain ⟨-, hcs⟩ := List.forall_mem_cons.mp h.isDigit
  exact ⟨takeWhile_run hcs hr, dropWhile_run hcs hr⟩

lemma integerNumeral_toString (i : Int) (hr : NoWord rest) :
    integerNumeral ((toString i).toList ++ rest) = some ((toString i).toList, rest) := by
  cases i with
  | ofNat n =>
    rw [toString_ofNat]
    rcases Nat.eq_zero_or_pos n with rfl | hn
    · rfl
    · obtain ⟨c, cs, he, hc⟩ := exists_toDigits_of_pos hn
      obtain ⟨htake, hdrop⟩ := (he ▸ digits_toDigits _ : Digits (c :: cs)).run hr.noDigit
      rw [he, List.cons_append, integerNumeral_of_digit hc, htake, hdrop]
  | negSucc n =>
    rw [toString_negSucc]
    obtain ⟨c, cs, he, hc⟩ := exists_toDigits_of_pos (Nat.succ_pos n)
    obtain ⟨htake, hdrop⟩ := (he ▸ digits_toDigits _ : Digits (c :: cs)).run hr.noDigit
    simp [he, integerNumeral, hc, htake, hdrop]

lemma integer_reads {i : Int} (hmin : Int64.minValue.toInt ≤ i) (hmax : i ≤ Int64.maxValue.toInt)
    (hr : NoWord rest) :
    integer ((toString i).toList ++ rest) = .ok (Int64.ofInt i) rest := by
  simp only [integer, integerNumeral_toString i hr, int?_toString hmin hmax]

lemma charsOf_reads {kind : Char → Bool} {w : List Char} (hne : w ≠ [])
    (hw : ∀ c ∈ w, kind c = true) (hr : ∀ c ∈ rest.head?, kind c = false) :
    Reader.charsOf kind (w ++ rest) = .ok w rest := by
  obtain ⟨c, cs, rfl⟩ := List.exists_cons_of_ne_nil hne
  obtain ⟨hc, hcs⟩ := List.forall_mem_cons.mp hw
  simp [Reader.charsOf, hc, takeWhile_run hcs hr, dropWhile_run hcs hr]

lemma NoPath.noNumber (h : NoPath rest) : NoNumber rest :=
  fun c hc => ⟨h.noWord.noDigit c hc, (h c hc).2⟩

lemma Digits.negativeNumber_reads (h : Digits m) (hr : NoNumber rest) {i : Int64}
    (hi : Numeral.int? ('-' :: m) = some i) :
    negativeNumber ('-' :: (m ++ rest)) = .ok (.int i) rest := by
  have hpoint : '.' ∉ m := by
    intro hmem
    cases h.isDigit '.' hmem
  have hbody : Reader.charsOf (fun c => Numeral.isDigit c || c == '.') (m ++ rest) =
      .ok m rest := by
    apply charsOf_reads h.ne_nil
    · intro c hc
      simp [h.isDigit c hc]
    · intro c hc
      simp [hr c hc]
  have hsign := Reader.literal_of_append "-" (m ++ rest)
  rw [negativeNumber]
  refine (Reader.bind_of_ok hsign).trans ((Reader.bind_of_ok hbody).trans ?_)
  rw [if_neg (by simpa using hpoint), hi]
  rfl

lemma Digits.decimalFraction_declines (h : Digits m) (hr : NoNumber rest) :
    decimalFraction.Declines (m ++ rest) := by
  have hwhole : Reader.charsOf Numeral.isDigit (m ++ rest) = .ok m rest :=
    charsOf_reads h.ne_nil h.isDigit fun c hc => (hr c hc).1
  apply Reader.Declines.bind_of_ok hwhole
  exact .bind (Reader.literal_declines rfl fun c hc => (hr c hc).2)

end Numerals

section Values

lemma value_head {v : Value} (h : v.isPrintable = true) : ∃ c cs, v.render.toList = c :: cs ∧
    isBlank c = false ∧ c ≠ '#' ∧ c ≠ '@' := by
  cases v with
  | float x => cases h
  | int i =>
    change ∃ c cs, (toString i.toInt).toList = c :: cs ∧ _
    cases i.toInt with
    | ofNat n =>
      obtain ⟨c, cs, he⟩ := List.exists_cons_of_ne_nil (Nat.toDigits_ne_nil (n := n) (b := 10))
      have hc : isWordPart c = true :=
        isWordPart_of_isDigit (isDigit_of_mem (n := n) (he ▸ List.mem_cons_self))
      exact ⟨c, cs, (toString_ofNat n).trans he, isBlank_of_isWordPart hc,
        ne_of_isWordPart hc rfl, ne_of_isWordPart hc rfl⟩
    | negSucc n => exact ⟨_, _, toString_negSucc n, by decide⟩
  | bool b => cases b <;> exact ⟨_, _, rfl, by decide⟩
  | text t =>
    have htext := toList_quoted t []
    rw [List.append_nil] at htext
    exact ⟨_, _, htext, by decide⟩

lemma skipLayout_value {v : Value} (h : v.isPrintable = true) :
    skipLayout (v.render.toList ++ rest) = v.render.toList ++ rest := by
  obtain ⟨c, cs, he, hb, hc, _⟩ := value_head h
  rw [he]
  exact skipLayout_cons hb hc

lemma value_leads : value.Leads := layout_leads.bind

lemma value_apply (s : List Char) : value s = Reader.expecting .value (Reader.firstOf
    [ Value.text <$> stringLiteral,
      (do keyword "true"; return .bool true),
      (do keyword "false"; return .bool false),
      negativeNumber,
      decimalFraction,
      Value.int <$> integer ]) (skipLayout s) := rfl

lemma stringLiteral_declines {s : List Char} (h : ∀ c ∈ s.head?, c ≠ '"') :
    stringLiteral.Declines s := by
  refine ⟨[], s, ?_⟩
  rw [stringLiteral.eq_def]
  split
  · exact (h _ rfl rfl).elim
  · rfl

lemma Digits.value_of_integer {m t : List Char} (h : Digits m) (hr : NoNumber rest) {i : Int64}
    (hread : integer (m ++ rest) = .ok i t) : value (m ++ rest) = .ok (.int i) t := by
  have hfraction := h.decimalFraction_declines hr
  obtain ⟨c, cs, rfl⟩ := List.exists_cons_of_ne_nil h.ne_nil
  have hc : Numeral.isDigit c = true := h.isDigit c List.mem_cons_self
  have hhead : ∀ x, Numeral.isDigit x = false → ∀ d ∈ (c :: cs ++ rest).head?, d ≠ x := by
    rintro x hx d ⟨⟩ rfl
    rw [hx] at hc
    cases hc
  rw [value_apply, List.cons_append, skipLayout_word (isWordPart_of_isDigit hc), ← List.cons_append]
  apply Reader.expecting_of_ok
  refine (Reader.firstOf_of_declines (.map (stringLiteral_declines (hhead '"' rfl)))).trans ?_
  have htrue : (keyword "true").Declines (c :: cs ++ rest) :=
    keyword_declines_of_head rfl (hhead 't' rfl)
  have hfalse : (keyword "false").Declines (c :: cs ++ rest) :=
    keyword_declines_of_head rfl (hhead 'f' rfl)
  refine (Reader.firstOf_of_declines (.bind htrue)).trans ?_
  refine (Reader.firstOf_of_declines (.bind hfalse)).trans ?_
  refine (Reader.firstOf_of_declines (.bind (Reader.literal_declines rfl (hhead '-' rfl)))).trans ?_
  refine (Reader.firstOf_of_declines hfraction).trans ?_
  exact Reader.map_of_ok hread

lemma value_of_negativeNumber {s t : List Char} {v : Value}
    (h : negativeNumber ('-' :: s) = .ok v t) : value ('-' :: s) = .ok v t := by
  apply Reader.expecting_of_ok
  refine (Reader.firstOf_of_declines ⟨_, _, rfl⟩).trans ?_
  refine (Reader.firstOf_of_declines ⟨_, _, rfl⟩).trans ?_
  refine (Reader.firstOf_of_declines ⟨_, _, rfl⟩).trans ?_
  exact Reader.firstOf_of_ok h

lemma integer_value {i : Int} (hmin : Int64.minValue.toInt ≤ i)
    (hmax : i ≤ Int64.maxValue.toInt) (hr : NoPath rest) :
    value ((toString i).toList ++ rest) = .ok (.int (Int64.ofInt i)) rest := by
  cases i with
  | ofNat n =>
    have hread := integer_reads hmin hmax hr.noWord
    rw [toString_ofNat] at hread ⊢
    exact (digits_toDigits n).value_of_integer hr.noNumber hread
  | negSucc n =>
    have hint := int?_toString hmin hmax
    rw [toString_negSucc] at hint ⊢
    exact value_of_negativeNumber ((digits_toDigits (n + 1)).negativeNumber_reads hr.noNumber hint)

lemma value_reads {v : Value} (h : v.isPrintable = true) (hr : NoPath rest) :
    value (v.render.toList ++ rest) = .ok v rest := by
  cases v with
  | float x => cases h
  | int i =>
    have hmin := Int64.minValue_le_toInt i
    have hmax := Int64.toInt_le i
    have hback : Int64.ofInt i.toInt = i := Int64.ofInt_toInt i
    have hread := integer_value hmin hmax hr
    rwa [hback] at hread
  | bool b =>
    cases b with
    | true =>
      have hkey := keyword_reads "true" hr.noWord
      apply Reader.expecting_of_ok
      refine (Reader.firstOf_of_declines ⟨_, _, rfl⟩).trans ?_
      exact Reader.firstOf_of_ok (Reader.bind_of_ok hkey)
    | false =>
      have hkey := keyword_reads "false" hr.noWord
      apply Reader.expecting_of_ok
      refine (Reader.firstOf_of_declines ⟨_, _, rfl⟩).trans ?_
      refine (Reader.firstOf_of_declines ⟨_, _, rfl⟩).trans ?_
      exact Reader.firstOf_of_ok (Reader.bind_of_ok hkey)
  | text t =>
    rw [value_apply, skipLayout_value h]
    apply Reader.expecting_of_ok
    exact Reader.firstOf_of_ok (Reader.map_of_ok (isPrintable_iff.mp h rest))

end Values

lemma toList_reference (name : String) : (Tag.reference (.named name)).toList = '@' :: name.toList := by
  simp [Tag.reference]

lemma tagReference_reads {name : String} (h : isIdentifier name = true) (hr : NoWord rest) :
    tagReference ('@' :: (name.toList ++ rest)) = .ok (.named name) rest :=
  Reader.commit_of_ok (Reader.map_of_ok (identifier_reads h hr))

end Antecedent.Source
