import Antecedent.Proofs.Source.Literals

/-! Whole numbers behind a minus sign and without one. Behind the sign a run of digits is read to
its end. Without it a zero in front of further digits is a number by itself, and the reader stops
there. -/

namespace Antecedent.Source

variable {c : Char} {cs m rest : List Char}

lemma bounds_of_isDigit (h : Numeral.isDigit c = true) (hc : c ≠ '0') : '1' ≤ c ∧ c ≤ '9' := by
  obtain ⟨hlow, hhigh⟩ := Char.isDigit_iff_toNat.mp h
  have hne : c.toNat ≠ '0'.toNat := fun he => hc (Char.toNat_inj.mp he)
  have hlow' : '1'.toNat ≤ c.toNat := Nat.lt_of_le_of_ne hlow hne.symm
  exact ⟨hlow', hhigh⟩

def Shortest (m : List Char) : Prop := m = ['0'] ∨ m.head? ≠ some '0'

instance : Decidable (Shortest m) := inferInstanceAs (Decidable (_ ∨ _))

lemma exists_of_not_shortest (h : ¬ Shortest m) : ∃ cs, m = '0' :: cs ∧ cs ≠ [] := by
  obtain ⟨hzero, hhead⟩ := not_or.mp h
  obtain ⟨cs, rfl⟩ := List.head?_eq_some_iff.mp (Decidable.not_not.mp hhead)
  exact ⟨cs, rfl, fun hnil => hzero (hnil ▸ rfl)⟩

lemma Digits.integerNumeral_reads (h : Digits m) (hr : NoNumber rest) (hshort : Shortest m) :
    integerNumeral (m ++ rest) = some (m, rest) := by
  obtain rfl | hhead := hshort
  · rfl
  · obtain ⟨c, cs, rfl⟩ := List.exists_cons_of_ne_nil h.ne_nil
    have hc : c ≠ '0' := by simpa using hhead
    obtain ⟨htake, hdrop⟩ := h.run fun d hd => (hr d hd).1
    have hbounds := bounds_of_isDigit (h.isDigit c List.mem_cons_self) hc
    rw [List.cons_append, integerNumeral_of_digit hbounds, htake, hdrop]

lemma Digits.value_unsigned (h : Digits m) (hr : NoNumber rest) (hshort : Shortest m)
    (hv : (Numeral.value m : Int) ≤ Int64.maxValue.toInt) :
    value (m ++ rest) = .ok (.int (Int64.ofInt (Numeral.value m))) rest := by
  have hlow : Int64.minValue.toInt ≤ (Numeral.value m : Int) :=
    Int.le_trans (by decide) (Int.natCast_nonneg _)
  have hint : Numeral.int? m = some (Int64.ofInt (Numeral.value m)) :=
    h.int? h.splitSign rfl hlow hv
  apply h.value_of_integer hr
  simp only [integer, h.integerNumeral_reads hr hshort, hint]

lemma Digits.value_zero (h : Digits ('0' :: cs)) (hr : NoNumber rest) :
    value ('0' :: cs ++ rest) = .ok (.int 0) (cs ++ rest) :=
  h.value_of_integer hr rfl

lemma Digits.value_signed (h : Digits m) (hr : NoNumber rest)
    (hv : (Numeral.value m : Int) ≤ Int64.maxValue.toInt) :
    value ('-' :: (m ++ rest)) = .ok (.int (Int64.ofInt (-Numeral.value m))) rest := by
  have hlow : Int64.minValue.toInt ≤ -(Numeral.value m : Int) :=
    Int.le_trans (by decide) (Int.neg_le_neg hv)
  have hhigh : -(Numeral.value m : Int) ≤ Int64.maxValue.toInt :=
    Int.le_trans (Int.neg_nonpos_of_nonneg (Int.natCast_nonneg _)) (by decide)
  have hint : Numeral.int? ('-' :: m) = some (Int64.ofInt (-Numeral.value m)) :=
    h.int? rfl rfl hlow hhigh
  exact value_of_negativeNumber (h.negativeNumber_reads hr hint)

theorem signs_agree_iff (h : Digits m) (hr : NoNumber rest)
    (hv : (Numeral.value m : Int) ≤ Int64.maxValue.toInt) :
    ((value (m ++ rest) = .ok (.int (Int64.ofInt (Numeral.value m))) rest ↔
        value ('-' :: (m ++ rest)) = .ok (.int (Int64.ofInt (-Numeral.value m))) rest) ↔
      Shortest m) ∧
    value ('-' :: (m ++ rest)) = .ok (.int (Int64.ofInt (-Numeral.value m))) rest ∧
    (¬ Shortest m → value (m ++ rest) = .ok (.int 0) (m.tail ++ rest)) := by
  have hsigned := h.value_signed hr hv
  have hstops : ¬ Shortest m → value (m ++ rest) = .ok (.int 0) (m.tail ++ rest) := by
    intro hshort
    obtain ⟨cs, rfl, -⟩ := exists_of_not_shortest hshort
    exact h.value_zero hr
  refine ⟨⟨fun hagree => ?_, fun hshort => iff_of_true (h.value_unsigned hr hshort hv) hsigned⟩,
    hsigned, hstops⟩
  -- A superfluous zero would leave digits unread.
  by_cases hshort : Shortest m
  · exact hshort
  · obtain ⟨cs, rfl, hcs⟩ := exists_of_not_shortest hshort
    have hread := (hstops hshort).symm.trans (hagree.mpr hsigned)
    injection hread with _ hrest
    exact absurd (List.append_left_eq_self.mp hrest) hcs

theorem signs_agree_at_bound : Digits "9223372036854775807".toList ∧ NoNumber " \x7d".toList ∧
    value "9223372036854775807 \x7d".toList = .ok (.int Int64.maxValue) " \x7d".toList ∧
    value "-9223372036854775807 \x7d".toList = .ok (.int (-Int64.maxValue)) " \x7d".toList := by
  have hm : Digits "9223372036854775807".toList :=
    ⟨by decide, List.all_eq_true.mp (by decide)⟩
  have hr : NoNumber " \x7d".toList := by rintro c ⟨⟩; decide
  obtain ⟨hagree, hsigned, -⟩ := signs_agree_iff hm hr (by decide)
  exact ⟨hm, hr, (hagree.mpr (by decide)).mpr hsigned, hsigned⟩

-- Only behind the sign are the zeros read.
theorem superfluous_zeros_unread : Digits "007".toList ∧ NoNumber [] ∧
    (Numeral.value "007".toList : Int) = 7 ∧ value "-007".toList = .ok (.int (-7)) [] ∧
    value "007".toList = .ok (.int 0) "07".toList ∧
    ¬ (value "007".toList = .ok (.int 7) [] ↔ value "-007".toList = .ok (.int (-7)) []) := by
  have hsigned : value "-007".toList = .ok (.int (-7)) [] := rfl
  have hstops : value "007".toList = .ok (.int 0) "07".toList := rfl
  have hm : Digits "007".toList := ⟨by decide, List.all_eq_true.mp (by decide)⟩
  refine ⟨hm, by rintro c ⟨⟩, by decide, hsigned, hstops, fun hagree => ?_⟩
  cases hstops.symm.trans (hagree.mpr hsigned)

end Antecedent.Source
