import Antecedent.Proofs.Source.Clauses

namespace Antecedent.Source

variable {s rest : List Char}

section Primary

lemma open_declines {c : Clause} (h : c.Printable) :
    (Reader.literal "(").Declines (skipLayout (c.render.toList ++ rest)) := by
  have hspaced := spaced_tokens h.nonempty
  obtain ⟨tokens⟩ := c
  obtain ⟨hne, modifiers, target, name, block, rfl, htarget, _⟩ := h
  rw [← skipLayout_space, ← List.cons_append, hspaced, spaced_inOrder]
  -- The first part that is there decides.
  cases modifiers with
  | cons m ms => cases m <;> exact ⟨_, _, rfl⟩
  | nil =>
    cases target with
    | some type =>
      obtain ⟨c, cs, hn, hc, _⟩ := exists_of_isIdentifier (isTypeName_iff.mp htarget).1
      change (Reader.literal "(").Declines (skipLayout (spaced [.target type] ++ _))
      rw [skipLayout_target htarget, hn]
      apply Reader.literal_declines rfl
      rintro d ⟨⟩
      exact ne_of_isWordPart (isWordPart_of_isWordStart hc) rfl
    | none =>
      cases name with
      | some n =>
        change (Reader.literal "(").Declines (skipLayout (spaced [.tag (.named n)] ++ _))
        rw [spaced_tag]
        exact ⟨_, _, rfl⟩
      | none =>
        cases block with
        | some ts =>
          change (Reader.literal "(").Declines (skipLayout (spaced [.tests (ts.map .property)] ++ _))
          rw [spaced_tests]
          exact ⟨_, _, rfl⟩
        | none => exact (hne rfl).elim

lemma primary_leads (p : Reader Condition) : (primary p).Leads := layout_leads.bind

lemma primary_apply (p : Reader Condition) (s : List Char) : primary p s =
    Reader.expecting .clause (Reader.firstOf
      [ (do
          Reader.literal "("
          let c ← p
          layout
          Reader.commit (Reader.literal ")")
          return c),
        Condition.clause <$> clause ]) (skipLayout s) := rfl

lemma primary_clause (p : Reader Condition) {c : Clause} (h : c.Printable) (he : ClauseEnds rest) :
    ∃ t, Left t rest ∧ primary p (c.render.toList ++ rest) = .ok (.clause c) t := by
  obtain ⟨t, ht, hread⟩ := clause_reads h he
  refine ⟨t, ht, ?_⟩
  rw [primary_apply]
  apply Reader.expecting_of_ok
  refine (Reader.firstOf_of_declines (.bind (open_declines h))).trans ?_
  apply Reader.map_of_ok
  rw [clause_leads _ _ (skipLayout_idem _), hread]

lemma primary_parens {p : Reader Condition} {c : Condition} {inner t : List Char}
    (h : p (inner ++ ')' :: rest) = .ok c t) (ht : Left t (')' :: rest)) :
    primary p ('(' :: (inner ++ ')' :: rest)) = .ok c rest := by
  have hclose : layout t = .ok () (')' :: rest) := congrArg (Reply.ok ()) ht.same
  rw [primary_apply]
  apply Reader.expecting_of_ok
  apply Reader.firstOf_of_ok
  refine (Reader.bind_of_ok (Reader.literal_of_append "(" (inner ++ ')' :: rest))).trans ?_
  refine (Reader.bind_of_ok h).trans ?_
  exact Reader.bind_of_ok hclose

end Primary

section Chains

variable {k : Connective} {q : Reader Condition}

lemma connective_leads (k : Connective) : (connective k).Leads := layout_leads.bind

lemma chain_leads (hq : q.Leads) (k : Connective) : (chain k q).Leads := hq.bind

lemma connective_reads {word : String} (h : word ∈ spellings k) (more : List Char) :
    connective k (' ' :: (word.toList ++ ' ' :: more)) = .ok () (' ' :: more) := by
  cases k <;> simp only [spellings, List.mem_cons, List.not_mem_nil, or_false] at h <;>
    rcases h with rfl | rfl <;> rfl

lemma connective_progress {word : String} (h : word ∈ spellings k) (more : List Char) :
    more.length < (skipLayout (' ' :: (word.toList ++ ' ' :: more))).length := by
  have hskip : skipLayout (' ' :: (word.toList ++ ' ' :: more)) = word.toList ++ ' ' :: more := by
    cases k <;> simp only [spellings, List.mem_cons, List.not_mem_nil, or_false] at h <;>
      rcases h with rfl | rfl <;> rfl
  rw [hskip, List.length_append, List.length_cons]
  omega

structure TermEnds (rest : List Char) : Prop extends ClauseEnds rest where
  and : (connective .and).Declines rest

lemma termEnds_close (more : List Char) : TermEnds (')' :: more) :=
  ⟨clauseEnds_close more, _, _, rfl⟩

lemma termEnds_or {word : String} (h : word ∈ spellings .or) (more : List Char) :
    TermEnds (' ' :: (word.toList ++ ' ' :: more)) := by
  refine ⟨clauseEnds_connective h more, ?_⟩
  simp only [spellings, List.mem_cons, List.not_mem_nil, or_false] at h
  rcases h with rfl | rfl <;> exact ⟨_, _, rfl⟩

variable {ι : Type} {F : List Char → Prop}

lemma chain_reads (hq : q.Leads) (text : ι → List Char) (spelled : ι → String)
    (val : ι → Condition) (x : ι) (xs : List ι) (hspelled : ∀ y ∈ xs, spelled y ∈ spellings k)
    (hread : ∀ y ∈ x :: xs, ∀ r, F r → ∃ t, Left t r ∧ q (text y ++ r) = .ok (val y) t)
    (hstart : ∀ word ∈ spellings k, ∀ r, F (' ' :: (word.toList ++ ' ' :: r)))
    (hrest : F rest) (hend : (connective k).Declines rest) :
    ∃ t, Left t rest ∧ chain k q (text x ++ ((xs.flatMap fun y =>
      ' ' :: ((spelled y).toList ++ ' ' :: text y)) ++ rest)) =
        .ok (grouped k (val x) (xs.map val)) t := by
  obtain ⟨hx, hxs⟩ := List.forall_mem_cons.mp hread
  have hnext : (do connective k; Reader.commit q : Reader Condition).Leads :=
    (connective_leads k).bind
  have hF : F ((xs.flatMap fun y => ' ' :: ((spelled y).toList ++ ' ' :: text y)) ++ rest) := by
    cases xs with
    | nil => exact hrest
    | cons y ys =>
      have hy := hstart (spelled y) (hspelled y List.mem_cons_self)
      simpa using hy _
  have hitem : ∀ y ∈ xs, ∀ r, F r → ∃ t, Left t r ∧
      (do connective k; Reader.commit q : Reader Condition)
        (' ' :: ((spelled y).toList ++ ' ' :: text y) ++ r) = .ok (val y) t := by
    intro y hy r hr
    obtain ⟨u, hu, hok⟩ := hxs y hy r hr
    refine ⟨u, hu, ?_⟩
    rw [List.cons_append, List.append_assoc, List.cons_append]
    refine (Reader.bind_of_ok (connective_reads (hspelled y hy) _)).trans ?_
    apply Reader.commit_of_ok
    rw [hq _ _ (skipLayout_space _), hok]
  have hitems : ∀ y ∈ xs, ∀ r, F (' ' :: ((spelled y).toList ++ ' ' :: text y) ++ r) ∧
      r.length < (skipLayout (' ' :: ((spelled y).toList ++ ' ' :: text y) ++ r)).length := by
    intro y hy r
    have hprogress := connective_progress (hspelled y hy) (text y ++ r)
    rw [List.length_append] at hprogress
    rw [List.cons_append, List.append_assoc, List.cons_append]
    exact ⟨hstart _ (hspelled y hy) _, by omega⟩
  obtain ⟨t, ht, hfirst⟩ := hx _ hF
  obtain ⟨u, hu, hmany⟩ := hnext.many _ val xs hitem hitems hrest hend.bind ht
  refine ⟨u, hu, ?_⟩
  refine (Reader.bind_of_ok hfirst).trans ?_
  exact Reader.bind_of_ok hmany

lemma chain_single {c : Condition} {t : List Char} (h : q s = .ok c t)
    (hd : (connective k).Declines t) : chain k q s = .ok c t := by
  refine (Reader.bind_of_ok h).trans ?_
  exact Reader.bind_of_ok (Reader.many_of_declines hd.bind)

end Chains

end Antecedent.Source
