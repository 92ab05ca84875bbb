import Antecedent.Proofs.Source.Progress
import Mathlib.Data.String.Basic

/-! Where reading failed. The failure lies between two characters of the text, and from its line and
column the way leads back to that very place. -/

namespace Antecedent.Source

variable {s t : List Char}

def Failure.offset (f : Failure) (text : String) : String.Pos.Raw :=
  ⟨text.utf8ByteSize - (String.ofList f.rest).utf8ByteSize⟩

namespace Position

/-- An offset that does not lie between two characters stands for the end of the text. -/
def atOffset (text : String) (offset : String.Pos.Raw) : Position :=
  if offset.IsValid text then after (String.Pos.Raw.extract text 0 offset).toList
  else after text.toList

def endLines (lines : List (List Char)) : List Char := lines.flatMap (· ++ ['\n'])

def locate (text : String) : Position → Option String.Pos.Raw
  | ⟨line + 1, column + 1⟩ =>
    let lines := text.toList.splitOn '\n'
    lines[line]?.bind fun chars =>
      if column ≤ chars.length then
        some (String.ofList (endLines (lines.take line) ++ chars.take column)).rawEndPos
      else none
  | _ => none

lemma exists_lines (s : List Char) : ∃ lines part, s = endLines lines ++ part ∧
    (∀ l ∈ lines, '\n' ∉ l) ∧ '\n' ∉ part := by
  induction s with
  | nil => exact ⟨[], [], rfl, by simp, by simp⟩
  | cons c s ih =>
    obtain ⟨lines, part, rfl, hlines, hpart⟩ := ih
    by_cases hc : c = '\n'
    · subst hc
      exact ⟨[] :: lines, part, rfl, by simpa using hlines, hpart⟩
    · cases lines with
      | nil => exact ⟨[], c :: part, rfl, hlines, by simpa [Ne.symm hc] using hpart⟩
      | cons l lines =>
        refine ⟨(c :: l) :: lines, part, rfl, ?_, hpart⟩
        simpa [Ne.symm hc] using hlines

lemma foldl_advance (h : '\n' ∉ s) (line column : Nat) :
    s.foldl advance ⟨line, column⟩ = ⟨line, column + s.length⟩ := by
  induction s generalizing column with
  | nil => rfl
  | cons c s ih =>
    obtain ⟨hc, hs⟩ : '\n' ≠ c ∧ '\n' ∉ s := by simpa using h
    rw [List.foldl_cons, advance, if_neg (Ne.symm hc), ih hs, Nat.add_right_comm]
    rfl

lemma foldl_endLines {lines : List (List Char)} (h : ∀ l ∈ lines, '\n' ∉ l) (line : Nat) :
    (endLines lines).foldl advance ⟨line, 1⟩ = ⟨line + lines.length, 1⟩ := by
  induction lines generalizing line with
  | nil => rfl
  | cons l lines ih =>
    obtain ⟨hl, hlines⟩ := List.forall_mem_cons.mp h
    have hnext : (l ++ ['\n']).foldl advance ⟨line, 1⟩ = ⟨line + 1, 1⟩ := by
      rw [List.foldl_append, foldl_advance hl]
      rfl
    rw [endLines, List.flatMap_cons, List.foldl_append, hnext, ← endLines, ih hlines,
      List.length_cons]
    congr 1
    omega

lemma after_lines {lines : List (List Char)} {part : List Char} (h : ∀ l ∈ lines, '\n' ∉ l)
    (hpart : '\n' ∉ part) :
    after (endLines lines ++ part) = ⟨lines.length + 1, part.length + 1⟩ := by
  rw [after, start, List.foldl_append, foldl_endLines h, foldl_advance hpart]
  congr 1 <;> omega

lemma splitOn_endLines {lines : List (List Char)} (h : ∀ l ∈ lines, '\n' ∉ l) (t : List Char) :
    (endLines lines ++ t).splitOn '\n' = lines ++ t.splitOn '\n' := by
  induction lines with
  | nil => rfl
  | cons l lines ih =>
    obtain ⟨hl, hlines⟩ := List.forall_mem_cons.mp h
    have htext : endLines (l :: lines) ++ t = l ++ '\n' :: (endLines lines ++ t) := by
      simp [endLines]
    rw [htext, List.splitOn_append_cons_self_of_not_mem hl, ih hlines]
    rfl

lemma exists_splitOn_append {part : List Char} (h : '\n' ∉ part) (t : List Char) :
    ∃ chars more, (part ++ t).splitOn '\n' = (part ++ chars) :: more := by
  induction part with
  | nil => exact List.exists_cons_of_ne_nil (List.splitOn_ne_nil '\n' t)
  | cons c part ih =>
    obtain ⟨hc, hpart⟩ : '\n' ≠ c ∧ '\n' ∉ part := by simpa using h
    obtain ⟨chars, more, hsplit⟩ := ih hpart
    refine ⟨chars, more, ?_⟩
    rw [List.cons_append, List.splitOn_cons_eq_if_modifyHead, if_neg (by simpa using Ne.symm hc),
      hsplit]
    rfl

lemma locate_after (before rest : List Char) :
    (after before).locate (String.ofList (before ++ rest)) =
      some (String.ofList before).rawEndPos := by
  obtain ⟨lines, part, rfl, hlines, hpart⟩ := exists_lines before
  obtain ⟨chars, more, hmore⟩ := exists_splitOn_append hpart rest
  have hsplit : (String.ofList (endLines lines ++ part ++ rest)).toList.splitOn '\n' =
      lines ++ (part ++ chars) :: more := by
    rw [String.toList_ofList, List.append_assoc, splitOn_endLines hlines, hmore]
  rw [after_lines hlines hpart, locate, hsplit]
  simp [endLines]

lemma exists_append_of_isValid {text : String} {p : String.Pos.Raw} (h : p.IsValid text) :
    ∃ before rest, text = String.ofList (before ++ rest) ∧
      p = (String.ofList before).rawEndPos := by
  obtain ⟨front, back, rfl, rfl⟩ := String.Pos.Raw.isValid_iff_exists_append.mp h
  refine ⟨front.toList, back.toList, ?_, ?_⟩ <;> simp

lemma isValid_of_append (before rest : List Char) :
    (String.ofList before).rawEndPos.IsValid (String.ofList (before ++ rest)) :=
  String.Pos.Raw.isValid_iff_exists_append.mpr
    ⟨String.ofList before, String.ofList rest, String.ofList_append, rfl⟩

lemma atOffset_of_append (before rest : List Char) :
    atOffset (String.ofList (before ++ rest)) (String.ofList before).rawEndPos = after before := by
  rw [atOffset, if_pos (isValid_of_append before rest)]
  have hend : (String.ofList before).rawEndPos = ⟨String.utf8Len before⟩ :=
    congrArg String.Pos.Raw.mk (String.utf8ByteSize_ofList before)
  have hfront := String.extract_of_valid [] before rest
  rw [List.nil_append, String.utf8Len_nil, Nat.zero_add, ← hend] at hfront
  exact congrArg after ((congrArg String.toList hfront).trans String.toList_ofList)

lemma locate_atOffset {text : String} {p : String.Pos.Raw} (h : p.IsValid text) :
    (atOffset text p).locate text = some p := by
  obtain ⟨before, rest, rfl, rfl⟩ := exists_append_of_isValid h
  rw [atOffset_of_append, locate_after]

end Position

lemma Failure.offset_of_append {f : Failure} {before : List Char} :
    f.offset (String.ofList (before ++ f.rest)) = (String.ofList before).rawEndPos := by
  rw [offset, String.ofList_append, String.utf8ByteSize_append, Nat.add_sub_cancel]
  rfl

lemma exists_before {text : String} {f : Failure} (h : document text.toList = .fail f) :
    ∃ before, text = String.ofList (before ++ f.rest) ∧
      f.offset text = (String.ofList before).rawEndPos ∧
      (SyntaxError.ofFailure text.toList f).position = Position.after before := by
  have htail : (document text.toList).rest <:+ text.toList :=
    (document_advances (n := 0) text.toList).rest_suffix
  rw [h] at htail
  obtain ⟨before, hbefore⟩ := htail
  change before ++ f.rest = text.toList at hbefore
  obtain rfl : text = String.ofList (before ++ f.rest) := by rw [hbefore, String.ofList_toList]
  refine ⟨before, rfl, Failure.offset_of_append, ?_⟩
  simp [SyntaxError.ofFailure]

end Antecedent.Source

namespace Antecedent

open Source

theorem parse_failure_located {text : String} {e : SyntaxError} (h : parse text = .error e) :
    ∃ f, document text.toList = .fail f ∧ f.rest <:+ text.toList ∧
      (f.offset text).IsValid text ∧ f.offset text ≤ text.rawEndPos ∧
      e.position = Position.atOffset text (f.offset text) ∧
      e.position.locate text = some (f.offset text) ∧
      ∀ p q, p.IsValid text → q.IsValid text → p ≠ q →
        Position.atOffset text p ≠ Position.atOffset text q := by
  rw [parse] at h
  split at h
  · cases h
  · next f hf =>
    cases h
    obtain ⟨before, rfl, hoffset, hposition⟩ := exists_before hf
    have hvalid : (f.offset _).IsValid (String.ofList (before ++ f.rest)) :=
      hoffset ▸ Position.isValid_of_append before f.rest
    have hat := Position.atOffset_of_append before f.rest
    rw [← hoffset, ← hposition] at hat
    refine ⟨f, hf, ?_, hvalid, hvalid.le_rawEndPos, hat.symm, ?_, ?_⟩
    · rw [String.toList_ofList]
      exact List.suffix_append before f.rest
    · rw [← hat]
      exact Position.locate_atOffset hvalid
    · intro p q hp hq hne hpq
      have hsame : some p = some q := by
        rw [← Position.locate_atOffset hp, ← Position.locate_atOffset hq, hpq]
      exact hne (Option.some.inj hsame)

def failedAt (text : String) : Option Position :=
  match parse text with
  | .ok _ => none
  | .error e => some e.position

lemma exists_of_failedAt {text : String} {p : Position} (h : failedAt text = some p) :
    ∃ e, parse text = .error e ∧ e.position = p := by
  rw [failedAt] at h
  split at h
  · cases h
  · next e he => exact ⟨e, he, Option.some.inj h⟩

-- The last character is unexpected. One character before it in its line takes up two bytes.
def accented : String := "rule r:\n\nA where \x7b n == \"é\" ü"

theorem accented_located : ∃ e f, parse accented = .error e ∧ e.position = ⟨3, 20⟩ ∧
    document accented.toList = .fail f ∧ f.rest = ['ü'] ∧ f.offset accented = ⟨29⟩ ∧
      (⟨29⟩ : String.Pos.Raw).IsValid accented ∧ e.position.locate accented = some ⟨29⟩ := by
  have hfailed : failedAt accented = some ⟨3, 20⟩ := by decide +kernel
  have hrest : (document accented.toList).rest = ['ü'] := by decide +kernel
  have hlocate : Position.locate accented ⟨3, 20⟩ = some ⟨29⟩ := by decide +kernel
  obtain ⟨e, he, hposition⟩ := exists_of_failedAt hfailed
  obtain ⟨f, hf, _, hvalid, _, _, hback, _⟩ := parse_failure_located he
  rw [hf] at hrest
  rw [← hposition] at hlocate
  obtain hoffset : f.offset accented = ⟨29⟩ := Option.some.inj (hback.symm.trans hlocate)
  exact ⟨e, f, he, hposition, hf, hrest, hoffset, hoffset ▸ hvalid, hlocate⟩

end Antecedent
