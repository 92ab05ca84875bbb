import Antecedent.Proofs.Source.Printable

namespace Antecedent.Source

variable {α β : Type} {s t rest : List Char}

section Layout

-- Inside a comment the mark has to be skipped just like the rest of the comment.
lemma skipFrom_idem (comment : Option (List Char)) (s : List Char)
    (h : ∀ mark, comment = some mark → skipLayout mark = skipFrom comment s) :
    skipLayout (skipFrom comment s) = skipFrom comment s := by
  fun_induction skipFrom comment s with
  | case1 => rfl
  | case2 c rest hb ih => exact ih (by simp)
  | case3 rest hb ih =>
    apply ih
    rintro mark ⟨⟩
    rfl
  | case4 c rest hb hc => simp [skipLayout, skipFrom, hb, hc]
  | case5 mark rest ih => exact ih (by simp)
  | case6 mark rest _ hn ih => exact ih (by simp)
  | case7 mark rest _ hn => exact h mark rfl
  | case8 mark c rest hn hr ih => exact ih h

lemma skipLayout_idem (s : List Char) : skipLayout (skipLayout s) = skipLayout s :=
  skipFrom_idem none s (by simp)

lemma skipFrom_length_le (comment : Option (List Char)) (s : List Char) :
    (skipFrom comment s).length ≤ max (comment.getD []).length s.length := by
  fun_induction skipFrom comment s <;> simp_all <;> omega

lemma skipLayout_length_le (s : List Char) : (skipLayout s).length ≤ s.length := by
  simpa [skipLayout] using skipFrom_length_le none s

lemma skipLayout_space (s : List Char) : skipLayout (' ' :: s) = skipLayout s := rfl

lemma skipLayout_cons {c : Char} (hb : isBlank c = false) (hc : c ≠ '#') :
    skipLayout (c :: s) = c :: s := by
  simp [skipLayout, skipFrom, hb, hc]

/-- What is left to read is `rest`, possibly without layout in front of it. -/
structure Left (t rest : List Char) : Prop where
  same : skipLayout t = skipLayout rest
  le : t.length ≤ rest.length

lemma Left.refl (rest : List Char) : Left rest rest := ⟨rfl, Nat.le_refl _⟩

lemma Left.skipLayout (rest : List Char) : Left (skipLayout rest) rest :=
  ⟨skipLayout_idem rest, skipLayout_length_le rest⟩

/-- The reader skips layout first of all. -/
def Reader.Leads (p : Reader α) : Prop := ∀ s t, skipLayout s = skipLayout t → p s = p t

lemma layout_leads : layout.Leads := fun _ _ h => congrArg (Reply.ok ()) h

namespace Reader.Leads

variable {p : Reader α} {f : α → Reader β}

lemma bind (hp : p.Leads) : (p >>= f).Leads := by
  intro s t h
  rw [bind_apply, bind_apply, hp s t h]

lemma declines (hp : p.Leads) (h : Left t rest) (hd : p.Declines rest) : p.Declines t := by
  obtain ⟨expected, u, hd⟩ := hd
  exact ⟨expected, u, by rw [hp t rest h.same, hd]⟩

variable {ι : Type} {q : Reader α} {F : List Char → Prop}

lemma many (hq : q.Leads) (text : ι → List Char) (val : ι → α) (xs : List ι)
    (hread : ∀ x ∈ xs, ∀ r, F r → ∃ t, Left t r ∧ q (text x ++ r) = .ok (val x) t)
    (hstart : ∀ x ∈ xs, ∀ r, F (text x ++ r) ∧ r.length < (skipLayout (text x ++ r)).length)
    (hrest : F rest) (hend : q.Declines rest) (hs : Left s (xs.flatMap text ++ rest)) :
    ∃ t, Left t rest ∧ Reader.many q s = .ok (xs.map val) t := by
  induction xs generalizing s with
  | nil => exact ⟨s, hs, many_of_declines (hq.declines hs hend)⟩
  | cons x xs ih =>
    obtain ⟨hx, hxs⟩ := List.forall_mem_cons.mp hread
    obtain ⟨hsx, hsxs⟩ := List.forall_mem_cons.mp hstart
    rw [List.flatMap_cons, List.append_assoc] at hs
    have hF : F (xs.flatMap text ++ rest) := by
      cases xs with
      | nil => exact hrest
      | cons y ys =>
        rw [List.flatMap_cons, List.append_assoc]
        exact (hsxs y List.mem_cons_self _).1
    obtain ⟨t, ht, hok⟩ := hx _ hF
    obtain ⟨u, hu, hmany⟩ := ih hxs hsxs ht
    refine ⟨u, hu, many_of_ok ?_ ?_ hmany⟩
    · rw [hq _ _ hs.same, hok]
    · have hlong := (hsx (xs.flatMap text ++ rest)).2
      have hskip := skipLayout_length_le s
      rw [hs.same] at hskip
      have hle := ht.le
      omega

end Reader.Leads

end Layout

section Words

variable {name word : String} {kind : Char → Bool} {w : List Char}

lemma takeWhile_run (hw : ∀ c ∈ w, kind c = true) (hr : ∀ c ∈ rest.head?, kind c = false) :
    (w ++ rest).takeWhile kind = w := by
  rw [List.takeWhile_append_of_pos hw]
  cases rest with
  | nil => simp
  | cons c rest => simp [hr c rfl]

lemma dropWhile_run (hw : ∀ c ∈ w, kind c = true) (hr : ∀ c ∈ rest.head?, kind c = false) :
    (w ++ rest).dropWhile kind = rest := by
  rw [List.dropWhile_append_of_pos hw]
  cases rest with
  | nil => simp
  | cons c rest => simp [hr c rfl]

def NoWord (rest : List Char) : Prop := ∀ c ∈ rest.head?, isWordPart c = false

lemma ne_of_isWordPart {c d : Char} (hc : isWordPart c = true) (hd : isWordPart d = false) :
    c ≠ d := by
  rintro rfl
  rw [hc] at hd
  cases hd

lemma isBlank_of_isWordPart {c : Char} (h : isWordPart c = true) : isBlank c = false := by
  cases hb : isBlank c with
  | false => rfl
  | true =>
    simp only [isBlank, Bool.or_eq_true, beq_iff_eq] at hb
    rcases hb with (((rfl | rfl) | rfl) | rfl) | rfl <;> cases h

lemma skipLayout_word {c : Char} (h : isWordPart c = true) : skipLayout (c :: s) = c :: s :=
  skipLayout_cons (isBlank_of_isWordPart h) (ne_of_isWordPart h rfl)

lemma isWordPart_of_isWordStart {c : Char} (h : isWordStart c = true) : isWordPart c = true := by
  simp only [isWordStart, isWordPart, Char.isAlphanum, Bool.or_eq_true] at h ⊢
  exact h.imp_left .inl

lemma exists_of_isIdentifier (h : isIdentifier name = true) :
    ∃ c cs, name.toList = c :: cs ∧ isWordStart c = true ∧ ∀ x ∈ cs, isWordPart x = true := by
  rw [isIdentifier] at h
  cases hn : name.toList with
  | nil => simp [hn] at h
  | cons c cs =>
    rw [hn] at h
    exact ⟨c, cs, rfl, by simpa using h⟩

lemma identifier_reads (h : isIdentifier name = true) (hr : NoWord rest) :
    identifier (name.toList ++ rest) = .ok name rest := by
  obtain ⟨c, cs, hn, hc, hcs⟩ := exists_of_isIdentifier h
  have hname : String.ofList (c :: cs) = name := by rw [← hn, String.ofList_toList]
  simp [hn, identifier, hc, takeWhile_run hcs hr, dropWhile_run hcs hr, hname]

lemma skipLayout_identifier (h : isIdentifier name = true) :
    skipLayout (name.toList ++ rest) = name.toList ++ rest := by
  obtain ⟨c, cs, hn, hc, _⟩ := exists_of_isIdentifier h
  rw [hn]
  exact skipLayout_word (isWordPart_of_isWordStart hc)

lemma isWordPart_of_mem (h : isIdentifier name = true) : ∀ c ∈ name.toList, isWordPart c = true := by
  obtain ⟨c, cs, hn, hc, hcs⟩ := exists_of_isIdentifier h
  rw [hn]
  exact List.forall_mem_cons.mpr ⟨isWordPart_of_isWordStart hc, hcs⟩

lemma notNext_reads (h : NoWord rest) : Reader.notNext isWordPart rest = .ok () rest := by
  cases rest with
  | nil => rfl
  | cons c rest => simp [Reader.notNext, h c rfl]

lemma notNext_declines (h : ¬ NoWord rest) : (Reader.notNext isWordPart).Declines rest := by
  cases rest with
  | nil => simp [NoWord] at h
  | cons c rest =>
    have hc : isWordPart c = true := by simpa [NoWord] using h
    exact ⟨[], c :: rest, by simp [Reader.notNext, hc]⟩

lemma notNext_ok : Reader.notNext isWordPart s = .ok () t ↔ NoWord s ∧ s = t := by
  by_cases hs : NoWord s
  · rw [notNext_reads hs]
    simp [hs]
  · obtain ⟨_, _, hd⟩ := notNext_declines hs
    rw [hd]
    simp [hs]

lemma keyword_reads (word : String) (hr : NoWord rest) :
    keyword word (word.toList ++ rest) = .ok () rest := by
  rw [keyword, Reader.bind_of_ok (Reader.literal_of_append word rest)]
  exact notNext_reads hr

lemma keyword_ok : keyword word s = .ok () t ↔ s = word.toList ++ t ∧ NoWord t := by
  constructor
  · intro h
    obtain ⟨_, u, hword, hnext⟩ := Reader.bind_ok.mp h
    obtain ⟨hu, rfl⟩ := notNext_ok.mp hnext
    exact ⟨Reader.literal_ok.mp hword, hu⟩
  · rintro ⟨rfl, hr⟩
    exact keyword_reads word hr

lemma keyword_declines_of_head {c : Char} {cs : List Char} (hw : word.toList = c :: cs)
    (h : ∀ d ∈ s.head?, d ≠ c) : (keyword word).Declines s :=
  .bind (Reader.literal_declines hw h)

lemma keyword_declines (hw : isIdentifier word = true) (hn : isIdentifier name = true)
    (hne : name ≠ word) (hr : NoWord rest) : (keyword word).Declines (name.toList ++ rest) := by
  rcases Reader.literal_cases word (name.toList ++ rest) with ⟨r, he⟩ | hd
  · rw [he]
    apply Reader.Declines.bind_of_ok (Reader.literal_of_append word r)
    apply notNext_declines
    intro hr'
    have heq : name.toList = word.toList := by
      rw [← takeWhile_run (isWordPart_of_mem hn) hr, he, takeWhile_run (isWordPart_of_mem hw) hr']
    exact hne (String.toList_inj.mp heq)
  · exact hd.bind

lemma isTypeName_iff : isTypeName name = true ↔ isIdentifier name = true ∧ name ∉ reserved := by
  simp [isTypeName]

lemma typeName_reads (h : isTypeName name = true) (hr : NoWord rest) :
    typeName (name.toList ++ rest) = .ok name rest := by
  obtain ⟨hid, hfree⟩ := isTypeName_iff.mp h
  exact Reader.filter_of_ok (identifier_reads hid hr) (by simpa using hfree)

def NoPath (rest : List Char) : Prop := ∀ c ∈ rest.head?, isWordPart c = false ∧ c ≠ '.'

lemma NoPath.noWord (h : NoPath rest) : NoWord rest := fun c hc => (h c hc).1

lemma NoPath.segments (h : NoPath rest) (names : List String) :
    NoWord ((names.flatMap fun u => '.' :: u.toList) ++ rest) := by
  cases names with
  | nil => exact h.noWord
  | cons u us =>
    rintro c ⟨⟩
    rfl

lemma toList_intercalate_cons (separator t : String) (ts : List String) :
    (separator.intercalate (t :: ts)).toList =
      t.toList ++ ts.flatMap fun u => separator.toList ++ u.toList := by
  induction ts generalizing t with
  | nil => simp
  | cons u ts ih => simp [String.intercalate_cons_cons, ih]

lemma segments_read (names : List String) (h : ∀ name ∈ names, isIdentifier name = true)
    (hr : NoPath rest) :
    Reader.many (do Reader.literal "."; identifier)
      ((names.flatMap fun u => '.' :: u.toList) ++ rest) = .ok names rest := by
  induction names with
  | nil =>
    apply Reader.many_of_declines
    exact .bind (Reader.literal_declines rfl fun c hc => (hr c hc).2)
  | cons name names ih =>
    obtain ⟨hname, hnames⟩ := List.forall_mem_cons.mp h
    rw [List.flatMap_cons, List.append_assoc]
    refine Reader.many_of_ok ?_ ?_ (ih hnames)
    · exact identifier_reads hname (hr.segments names)
    · simp only [List.cons_append, List.length_cons, List.length_append]
      omega

lemma path_text {p : Path} (h : p.isPrintable = true) : ∃ name names, p = ⟨name :: names⟩ ∧
    isIdentifier name = true ∧ (∀ u ∈ names, isIdentifier u = true) ∧
      p.render.toList = name.toList ++ names.flatMap fun u => '.' :: u.toList := by
  obtain ⟨names⟩ := p
  cases names with
  | nil => cases h
  | cons name names =>
    have hall : ∀ u ∈ name :: names, isIdentifier u = true := by
      simpa [Path.isPrintable, Path.isRoot] using h
    obtain ⟨hname, hnames⟩ := List.forall_mem_cons.mp hall
    exact ⟨name, names, rfl, hname, hnames, toList_intercalate_cons "." name names⟩

lemma skipLayout_path {p : Path} (h : p.isPrintable = true) :
    skipLayout (p.render.toList ++ rest) = p.render.toList ++ rest := by
  obtain ⟨name, names, _, hname, _, htext⟩ := path_text h
  rw [htext, List.append_assoc, skipLayout_identifier hname]

lemma path_reads {p : Path} (h : p.isPrintable = true) (hr : NoPath rest) :
    path (p.render.toList ++ rest) = .ok p rest := by
  obtain ⟨name, names, rfl, hname, hnames, htext⟩ := path_text h
  rw [htext, List.append_assoc, path, Reader.bind_of_ok (identifier_reads hname (hr.segments names)),
    Reader.bind_of_ok (segments_read names hnames hr)]
  rfl

end Words

end Antecedent.Source
