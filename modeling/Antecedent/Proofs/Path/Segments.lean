import Antecedent.Names
import Mathlib.Tactic.Lemma

/-! Paths and their texts. A dot between two texts puts the segments of one before those of the other,
wherever else the texts have dots, and a path that has segments is read back from its text. -/

namespace Antecedent.Path

variable {text segment : String} {segments : List String} {s piece : List Char}

lemma eq_of_segments {p q : Path} (h : p.segments = q.segments) : p = q := by
  cases p
  cases q
  exact congrArg Path.mk h

lemma dot_not_mem_of_mem_splitOn (h : piece ∈ s.splitOn '.') : '.' ∉ piece := by
  induction s generalizing piece with
  | nil =>
    obtain rfl := List.mem_singleton.mp h
    exact List.not_mem_nil
  | cons c s ih =>
    rw [List.splitOn_cons_eq_if_modifyHead] at h
    cases hsplit : s.splitOn '.' with
    | nil => exact absurd hsplit (List.splitOn_ne_nil '.' s)
    | cons first more =>
      rw [hsplit] at h ih
      by_cases hc : c = '.'
      · rw [if_pos (beq_iff_eq.mpr hc)] at h
        rcases List.mem_cons.mp h with rfl | hmem
        · exact List.not_mem_nil
        · exact ih hmem
      · rw [if_neg (by simpa using hc), List.modifyHead_cons] at h
        rcases List.mem_cons.mp h with rfl | hmore
        · simpa [Ne.symm hc] using ih List.mem_cons_self
        · exact ih (List.mem_cons_of_mem first hmore)

lemma wellFormed_of_mem_segments (h : segment ∈ (parse text).segments) :
    segment ≠ "" ∧ '.' ∉ segment.toList := by
  obtain ⟨piece, hpiece, rfl⟩ := List.mem_map.mp h
  obtain ⟨hmem, hne⟩ := List.mem_filter.mp hpiece
  refine ⟨?_, ?_⟩
  · simpa using hne
  · rw [String.toList_ofList]
    exact dot_not_mem_of_mem_splitOn hmem

lemma segments_parse_append (p q : String) :
    (parse (p ++ "." ++ q)).segments = (parse p).segments ++ (parse q).segments := by
  have htext : (p ++ "." ++ q).toList = p.toList ++ '.' :: q.toList := by simp
  simp only [parse, htext, List.splitOn_append_cons_self, List.filter_append, List.map_append]

lemma segments_parse_single (h : '.' ∉ text.toList) :
    (parse text).segments = if text = "" then [] else [text] := by
  rw [parse, List.splitOn_eq_singleton h]
  by_cases ht : text = "" <;> simp [ht]

lemma segments_parse_intercalate
    (h : ∀ segment ∈ segments, segment ≠ "" ∧ '.' ∉ segment.toList) :
    (parse (".".intercalate segments)).segments = segments := by
  induction segments with
  | nil => rfl
  | cons first rest ih =>
    obtain ⟨⟨hne, hdot⟩, hrest⟩ := List.forall_mem_cons.mp h
    have hfirst : (parse first).segments = [first] := by
      rw [segments_parse_single hdot, if_neg hne]
    by_cases hnil : rest = []
    · rw [hnil, String.intercalate_singleton, hfirst]
    · rw [String.intercalate_cons_of_ne_nil hnil, segments_parse_append, hfirst, ih hrest,
        List.singleton_append]

lemma parse_render (h : (parse text).isRoot = false) :
    parse (parse text).render = parse text := by
  have hsegments : (parse (".".intercalate (parse text).segments)).segments =
      (parse text).segments :=
    segments_parse_intercalate fun _ => wellFormed_of_mem_segments
  rw [render, h, if_neg Bool.false_ne_true]
  exact eq_of_segments hsegments

theorem parse_segments (p q : String) :
    (parse (p ++ "." ++ q)).segments = (parse p).segments ++ (parse q).segments ∧
      (∀ segment ∈ (parse p).segments, segment ≠ "" ∧ '.' ∉ segment.toList) ∧
      ((parse p).isRoot = false → parse (parse p).render = parse p) ∧
      ('.' ∉ p.toList → (parse p).segments = if p = "" then [] else [p]) :=
  ⟨segments_parse_append p q, fun _ => wellFormed_of_mem_segments, parse_render,
    segments_parse_single⟩

theorem strayDots_segments : (parse ".a..b.").isRoot = false ∧
    parse (parse ".a..b.").render = parse ".a..b." ∧
      (parse (".a..b." ++ "." ++ ".c")).segments = ["a", "b", "c"] := by
  obtain ⟨happend, -, hrender, -⟩ := parse_segments ".a..b." ".c"
  have hroot : (parse ".a..b.").isRoot = false := by decide
  have hsegments : (parse ".a..b.").segments ++ (parse ".c").segments = ["a", "b", "c"] := by decide
  exact ⟨hroot, hrender hroot, happend.trans hsegments⟩

-- The root is written like a property of that name.
example : parse root.render = ⟨["self"]⟩ := by decide

end Antecedent.Path
