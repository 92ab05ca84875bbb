import Antecedent.Proofs.Source.Seams
import Mathlib.Data.Nat.Find

/-! Where a text in quotes ends. A quote closes the text if the backslashes in front of it pair up among
themselves, and the reader stops at the first quote of this kind. -/

namespace Antecedent.Source

variable {c : Char} {s t : List Char} {i k : Nat}

def shielded (text : List Char) : List Char :=
  text.flatMap fun c => if c = '"' ∨ c = '\\' then ['\\', c] else [c]

def trailingSlashes (s : List Char) : Nat := (s.reverse.takeWhile (· == '\\')).length

/-- In the text behind an opening quote, there is a quote at `i` that no backslash escapes. -/
def Closes (s : List Char) (i : Nat) : Prop :=
  s[i]? = some '"' ∧ trailingSlashes (s.take i) % 2 = 0

instance : Decidable (Closes s i) := inferInstanceAs (Decidable (_ ∧ _))

def ClosesFirst (s : List Char) (i : Nat) : Prop := Closes s i ∧ ∀ j < i, ¬ Closes s j

section Slashes

lemma trailingSlashes_le (s : List Char) : trailingSlashes s ≤ s.length := by
  have hle := (List.takeWhile_prefix (l := s.reverse) (· == '\\')).length_le
  rwa [List.length_reverse] at hle

-- A character in front adds to the backslashes at the end only if there is nothing else.
lemma trailingSlashes_cons (c : Char) (s : List Char) : trailingSlashes (c :: s) =
    if trailingSlashes s = s.length then s.length + trailingSlashes [c] else trailingSlashes s := by
  simp only [trailingSlashes, List.reverse_cons, List.takeWhile_append, List.length_reverse,
    List.reverse_nil, List.nil_append]
  split <;> simp

lemma trailingSlashes_cons_of_ne (h : c ≠ '\\') : trailingSlashes (c :: s) = trailingSlashes s := by
  have hc : trailingSlashes [c] = 0 := by simp [trailingSlashes, h]
  rw [trailingSlashes_cons, hc]
  split <;> omega

lemma trailingSlashes_pair (c : Char) (s : List Char) :
    trailingSlashes ('\\' :: c :: s) % 2 = trailingSlashes s % 2 := by
  have hslash : trailingSlashes ['\\'] = 1 := rfl
  have hle := trailingSlashes_le s
  rw [trailingSlashes_cons, hslash, List.length_cons]
  by_cases hc : c = '\\'
  · subst hc
    rw [trailingSlashes_cons, hslash]
    split <;> split <;> omega
  · rw [trailingSlashes_cons_of_ne hc]
    split <;> omega

end Slashes

section Closing

lemma not_closes_nil : ¬ Closes [] i := by
  rintro ⟨⟨⟩, -⟩

lemma closes_quote : Closes ('"' :: s) 0 := ⟨rfl, rfl⟩

lemma closes_plain (hquote : c ≠ '"') (hslash : c ≠ '\\') :
    Closes (c :: s) i ↔ ∃ j, i = j + 1 ∧ Closes s j := by
  cases i with
  | zero => simp [Closes, hquote]
  | succ j => simp [Closes, trailingSlashes_cons_of_ne hslash]

lemma closes_pair : Closes ('\\' :: c :: s) i ↔ ∃ j, i = j + 2 ∧ Closes s j := by
  rcases i with _ | _ | j
  · simp [Closes]
  · simp [Closes, trailingSlashes]
  · simp [Closes, trailingSlashes_pair]

lemma closesFirst_shift (h : ∀ i, Closes s i ↔ ∃ j, i = j + k ∧ Closes t j) :
    ClosesFirst s i ↔ ∃ j, i = j + k ∧ ClosesFirst t j := by
  simp only [ClosesFirst, h]
  constructor
  · rintro ⟨⟨j, rfl, hj⟩, hfirst⟩
    refine ⟨j, rfl, hj, fun l hl hcloses => ?_⟩
    exact hfirst (l + k) (by omega) ⟨l, rfl, hcloses⟩
  · rintro ⟨j, rfl, hj, hfirst⟩
    refine ⟨⟨j, rfl, hj⟩, ?_⟩
    rintro _ hlt ⟨l, rfl, hcloses⟩
    exact hfirst l (by omega) hcloses

lemma stop_shift {rest : List Char} (h : ∀ i, Closes s i ↔ ∃ j, i = j + k ∧ Closes rest j)
    (hdrop : s.drop k = rest) : (∃ i, ClosesFirst s i ∧ t = s.drop (i + 1)) ↔
      ∃ i, ClosesFirst rest i ∧ t = rest.drop (i + 1) := by
  have hbehind : ∀ j, s.drop (j + k + 1) = rest.drop (j + 1) := by
    intro j
    rw [← hdrop, List.drop_drop]
    congr 1
    omega
  constructor
  · rintro ⟨i, hi, rfl⟩
    obtain ⟨j, rfl, hj⟩ := (closesFirst_shift h).mp hi
    exact ⟨j, hj, hbehind j⟩
  · rintro ⟨j, hj, rfl⟩
    exact ⟨j + k, (closesFirst_shift h).mpr ⟨j, rfl, hj⟩, (hbehind j).symm⟩

lemma exists_closesFirst : (∃ i, ClosesFirst s i) ↔ ∃ i, Closes s i := by
  constructor
  · rintro ⟨i, hi, -⟩
    exact ⟨i, hi⟩
  · intro h
    exact ⟨Nat.find h, Nat.find_spec h, fun j hj => Nat.find_min h hj⟩

end Closing

section Reading

lemma untilQuote_shielded (text rest : List Char) :
    untilQuote (shielded text ++ '"' :: rest) = some (text, rest) := by
  induction text with
  | nil => rfl
  | cons c text ih =>
    rw [shielded, List.flatMap_cons, ← shielded, List.append_assoc]
    by_cases hc : c = '"' ∨ c = '\\'
    · rw [if_pos hc]
      have hstep : untilQuote (['\\', c] ++ (shielded text ++ '"' :: rest)) =
          some (unescape c ++ text, rest) := by
        simp only [List.cons_append, List.nil_append, untilQuote, ih, Option.map_some]
      rcases hc with rfl | rfl <;> exact hstep
    · obtain ⟨hquote, hslash⟩ := not_or.mp hc
      rw [if_neg hc, List.singleton_append, untilQuote_cons hquote hslash, ih]
      rfl

lemma exists_map_iff {found : Option (List Char × List Char)} {f : List Char → List Char} :
    (∃ text, (found.map fun (text, after) => (f text, after)) = some (text, t)) ↔
      ∃ text, found = some (text, t) := by
  rcases found with _ | ⟨text, after⟩ <;> simp

lemma untilQuote_stops : (∃ text, untilQuote s = some (text, t)) ↔
    ∃ i, ClosesFirst s i ∧ t = s.drop (i + 1) := by
  fun_induction untilQuote s with
  | case1 => simp [ClosesFirst, not_closes_nil]
  | case2 rest =>
    constructor
    · rintro ⟨_, he⟩
      cases he
      exact ⟨0, ⟨closes_quote, by simp⟩, rfl⟩
    · rintro ⟨i, ⟨-, hfirst⟩, rfl⟩
      obtain rfl : i = 0 := Nat.eq_zero_of_not_pos fun hpos => hfirst 0 hpos closes_quote
      exact ⟨[], rfl⟩
  | case3 =>
    have hnone : ∀ i, ¬ Closes ['\\'] i := by
      rintro (_ | i) ⟨⟨⟩, -⟩
    simp [ClosesFirst, hnone]
  | case4 c rest ih =>
    rw [exists_map_iff, ih, stop_shift (fun _ => closes_pair) rfl]
  | case5 c rest hquote hlast hpair ih =>
    have hslash : c ≠ '\\' := by
      rintro rfl
      cases rest with
      | nil => exact hlast rfl rfl
      | cons d more => exact hpair d more rfl rfl
    rw [exists_map_iff, ih, stop_shift (fun _ => closes_plain hquote hslash) rfl]

lemma stringLiteral_stops : (∃ read, stringLiteral ('"' :: s) = .ok read t) ↔
    ∃ i, ClosesFirst s i ∧ t = s.drop (i + 1) := by
  rw [← untilQuote_stops]
  simp only [stringLiteral_ok]
  constructor
  · rintro ⟨_, _, chars, he, hread, -⟩
    cases he
    exact ⟨chars, hread⟩
  · rintro ⟨chars, hread⟩
    exact ⟨String.ofList chars, s, chars, rfl, hread, rfl⟩

end Reading

/-- Whether a quote closes the text depends on nothing but the backslashes directly in front of it,
whatever the escapes before them mean. -/
theorem stringLiteral_quotation (text : String) (body rest : List Char) :
    stringLiteral ('"' :: (shielded text.toList ++ '"' :: rest)) = .ok text rest ∧
      ((∃ read after, stringLiteral ('"' :: body) = .ok read after) ↔ ∃ i, Closes body i) ∧
      ∀ after, (∃ read, stringLiteral ('"' :: body) = .ok read after) ↔
        ∃ i, Closes body i ∧ (∀ j < i, ¬ Closes body j) ∧ after = body.drop (i + 1) := by
  refine ⟨?_, ?_, fun after => ?_⟩
  · rw [stringLiteral_ok]
    exact ⟨_, text.toList, rfl, untilQuote_shielded text.toList rest, String.ofList_toList⟩
  · rw [exists_comm, ← exists_closesFirst]
    simp only [stringLiteral_stops]
    constructor
    · rintro ⟨_, i, hi, -⟩
      exact ⟨i, hi⟩
    · rintro ⟨i, hi⟩
      exact ⟨body.drop (i + 1), i, hi, rfl⟩
  · rw [stringLiteral_stops]
    simp only [ClosesFirst, and_assoc]

-- Behind the opening quote the first quote is escaped, and the second stands behind a backslash that is.
example : stringLiteral "\"a\\\"b\\\\\"c\"".toList = .ok "a\"b\\" "c\"".toList := rfl

end Antecedent.Source
