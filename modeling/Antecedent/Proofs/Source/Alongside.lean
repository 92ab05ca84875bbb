import Antecedent.Proofs.Source.Replies

/-! Two texts read side by side: what a reader takes off one text is taken off a related one, too. -/

namespace Antecedent.Source

variable {α β : Type} {R S : List Char → List Char → Prop} {s s' t t' u u' : List Char}

/-- Reading has come from `s` to `t` in one text and from `s'` to `t'` in the other. A repetition that
goes on in the first text must not stall in the second one. -/
structure Onward (R : List Char → List Char → Prop) (s s' t t' : List Char) : Prop where
  related : R t t'
  le : t.length ≤ s.length
  le' : t'.length ≤ s'.length
  lt : t.length < s.length → t'.length < s'.length

namespace Onward

lemma refl (h : R s s') : Onward R s s' s s' :=
  ⟨h, Nat.le_refl _, Nat.le_refl _, fun hlt => (Nat.lt_irrefl _ hlt).elim⟩

lemma trans (h : Onward R s s' t t') (h' : Onward S t t' u u') : Onward S s s' u u' := by
  refine ⟨h'.related, Nat.le_trans h'.le h.le, Nat.le_trans h'.le' h.le', ?_⟩
  intro hlt
  by_cases ht : t.length < s.length
  · exact Nat.lt_of_le_of_lt h'.le' (h.lt ht)
  · have hu : u.length < t.length := by omega
    exact Nat.lt_of_lt_of_le (h'.lt hu) h.le'

lemma mono (h : Onward R s s' t t') (hS : S t t') : Onward S s s' t t' := ⟨hS, h.le, h.le', h.lt⟩

lemma of_append (w : List Char) (h : R t t') : Onward R (w ++ t) (w ++ t') t t' := by
  refine ⟨h, ?_, ?_, ?_⟩ <;> simp only [List.length_append] <;> omega

end Onward

def Below (R : List Char → List Char → Prop) (n : Nat) (s s' : List Char) : Prop :=
  R s s' ∧ s'.length < n

def Reader.Carries (R : List Char → List Char → Prop) (p q : Reader α) : Prop :=
  ∀ ⦃s s' a t⦄, R s s' → p s = .ok a t → ∃ t', q s' = .ok a t' ∧ Onward R s s' t t'

structure Reader.Mirrors (R : List Char → List Char → Prop) (p q : Reader α) : Prop where
  carries : Reader.Carries R p q
  refuses : ∀ ⦃s s'⦄, R s s' → p.Declines s → q.Declines s'

namespace Reader

variable {p q p₁ p₂ q₁ q₂ : Reader α} {f g : α → Reader β} {as : List α} {what : Expectation}

namespace Carries

lemma bind (hp : Carries R p q) (hf : ∀ a, Carries R (f a) (g a)) :
    Carries R (p >>= f) (q >>= g) := by
  intro s s' b u hs h
  obtain ⟨a, t, ha, hb⟩ := bind_ok.mp h
  obtain ⟨t', ha', ht⟩ := hp hs ha
  obtain ⟨u', hb', hu⟩ := hf a ht.related hb
  exact ⟨u', bind_ok.mpr ⟨a, t', ha', hb'⟩, ht.trans hu⟩

lemma pure (a : α) : Carries R (Pure.pure a : Reader α) (Pure.pure a) := by
  intro s s' b t hs h
  obtain ⟨rfl, rfl⟩ := pure_ok.mp h
  exact ⟨s', rfl, .refl hs⟩

lemma map (hp : Carries R p q) (f : α → β) : Carries R (f <$> p) (f <$> q) :=
  hp.bind fun a => .pure (f a)

lemma expecting (h : Carries R p q) : Carries R (p.expecting what) (q.expecting what) := by
  intro s s' a t hs ha
  obtain ⟨t', ha', ht⟩ := h hs (expecting_ok.mp ha)
  exact ⟨t', expecting_ok.mpr ha', ht⟩

lemma orElse (hp : Carries R p₁ p₂) (hq : Carries R q₁ q₂)
    (hd : ∀ s s' a t, R s s' → p₁.Declines s → q₁ s = .ok a t → p₂.Declines s') :
    Carries R (p₁.orElse q₁) (p₂.orElse q₂) := by
  intro s s' a t hs h
  rcases orElse_ok h with h₁ | ⟨hp₁, h₁⟩
  · obtain ⟨t', h₂, ht⟩ := hp hs h₁
    exact ⟨t', orElse_of_ok h₂, ht⟩
  -- Only where the other alternative is taken does the first one have to decline in both texts.
  · obtain ⟨t', h₂, ht⟩ := hq hs h₁
    refine ⟨t', ?_, ht⟩
    rw [orElse_of_declines (hd s s' a t hs hp₁ h₁), h₂]

lemma firstOf_cons {ps qs : List (Reader α)} (hp : Mirrors R p₁ p₂)
    (hq : Carries R (firstOf (q₁ :: ps)) (firstOf (q₂ :: qs))) :
    Carries R (firstOf (p₁ :: q₁ :: ps)) (firstOf (p₂ :: q₂ :: qs)) :=
  hp.carries.orElse hq fun _ _ _ _ hs hd _ => hp.refuses hs hd

lemma many_append (h : Carries R p q) (hs : R s s') (hm : many p s = .ok as u) :
    p.Declines u ∧ ∃ u', Onward R s s' u u' ∧ ∀ more v, many q u' = .ok more v →
      many q s' = .ok (as ++ more) v := by
  induction as generalizing s s' with
  | nil =>
    rcases many_ok hm with ⟨_, rfl, hd⟩ | ⟨_, _, _, he, _⟩
    · exact ⟨hd, s', .refl hs, fun _ _ hmore => hmore⟩
    · cases he
  | cons a as ih =>
    rcases many_ok hm with ⟨he, _⟩ | ⟨b, _, t, he, ha, hlt, hrest⟩
    · cases he
    · cases he
      obtain ⟨t', ha', ht⟩ := h hs ha
      obtain ⟨hd, u', hu, hgo⟩ := ih ht.related hrest
      refine ⟨hd, u', ht.trans hu, ?_⟩
      intro more v hmore
      exact many_of_ok ha' (ht.lt hlt) (hgo more v hmore)

lemma many_of_ends (h : Carries R p q) (hs : R s s') (hm : many p s = .ok as u)
    (hend : ∀ u', R u u' → p.Declines u → q.Declines u') :
    ∃ u', many q s' = .ok as u' ∧ Onward R s s' u u' := by
  obtain ⟨hd, u', hu, hgo⟩ := h.many_append hs hm
  have hstop := many_of_declines (hend u' hu.related hd)
  refine ⟨u', ?_, hu⟩
  simpa using hgo [] u' hstop

lemma separatedBy_of_ends {x y : Reader β} (hp : Carries R p q) (hx : Carries R x y) (hs : R s s')
    (h : p.separatedBy x s = .ok as u) (hnone : u = s → p.Declines s → q.Declines s')
    (hend : ∀ u', R u u' → (do let _ ← x; p).Declines u → (do let _ ← y; q).Declines u') :
    ∃ u', q.separatedBy y s' = .ok as u' ∧ Onward R s s' u u' := by
  rcases separatedBy_ok h with ⟨rfl, rfl, hd⟩ | ⟨a, more, t, rfl, ha, hmore⟩
  · refine ⟨s', ?_, .refl hs⟩
    exact bind_of_ok (optional_of_declines (hnone rfl hd))
  · obtain ⟨t', ha', ht⟩ := hp hs ha
    obtain ⟨u', hmore', hu⟩ := (hx.bind fun _ => hp).many_of_ends ht.related hmore hend
    refine ⟨u', ?_, ht.trans hu⟩
    refine (bind_of_ok (optional_of_ok ha')).trans ?_
    exact bind_of_ok hmore'

end Carries

namespace Mirrors

lemma bind (hp : Mirrors R p q) (hf : ∀ a, Mirrors R (f a) (g a)) :
    Mirrors R (p >>= f) (q >>= g) where
  carries := hp.carries.bind fun a => (hf a).carries
  refuses s s' hs h := by
    rcases bind_declines.mp h with hd | ⟨a, t, ha, hd⟩
    · exact (hp.refuses hs hd).bind
    · obtain ⟨t', ha', ht⟩ := hp.carries hs ha
      exact .bind_of_ok ha' ((hf a).refuses ht.related hd)

lemma pure (a : α) : Mirrors R (Pure.pure a : Reader α) (Pure.pure a) where
  carries := .pure a
  refuses := by
    rintro s s' hs ⟨_, _, ⟨⟩⟩

lemma map (hp : Mirrors R p q) (f : α → β) : Mirrors R (f <$> p) (f <$> q) :=
  hp.bind fun a => .pure (f a)

lemma fail : Mirrors R (fail : Reader α) fail where
  carries := by
    rintro s s' a t hs ⟨⟩
  refuses _ s' _ _ := ⟨[], s', rfl⟩

lemma abort : Mirrors R (abort : Reader α) abort where
  carries := by
    rintro s s' a t hs ⟨⟩
  refuses := by
    rintro s s' hs ⟨_, _, ⟨⟩⟩

lemma expecting (h : Mirrors R p q) : Mirrors R (p.expecting what) (q.expecting what) where
  carries := h.carries.expecting
  refuses _ _ hs hd := expecting_declines.mpr (h.refuses hs (expecting_declines.mp hd))

lemma commit (h : Carries R p q) : Mirrors R p.commit q.commit where
  carries s s' a t hs ha := by
    obtain ⟨t', ha', ht⟩ := h hs (commit_ok.mp ha)
    exact ⟨t', commit_ok.mpr ha', ht⟩
  refuses _ _ _ hd := (not_declines_commit hd).elim

lemma optional (h : Mirrors R p q) : Mirrors R p.optional q.optional where
  carries s s' x t hs hx := by
    rcases optional_ok hx with ⟨rfl, rfl, hd⟩ | ⟨a, rfl, ha⟩
    · exact ⟨s', optional_of_declines (h.refuses hs hd), .refl hs⟩
    · obtain ⟨t', ha', ht⟩ := h.carries hs ha
      exact ⟨t', optional_of_ok ha', ht⟩
  refuses _ _ _ hd := (not_declines_optional hd).elim

lemma orElse (hp : Mirrors R p₁ p₂) (hq : Mirrors R q₁ q₂) :
    Mirrors R (p₁.orElse q₁) (p₂.orElse q₂) where
  carries := hp.carries.orElse hq.carries fun _ _ _ _ hs hd _ => hp.refuses hs hd
  refuses s s' hs hd := by
    obtain ⟨h₁, h₂⟩ := orElse_declines.mp hd
    exact orElse_declines.mpr ⟨hp.refuses hs h₁, hq.refuses hs h₂⟩

lemma firstOf_cons {ps qs : List (Reader α)} (hp : Mirrors R p₁ p₂)
    (hq : Mirrors R (firstOf (q₁ :: ps)) (firstOf (q₂ :: qs))) :
    Mirrors R (Reader.firstOf (p₁ :: q₁ :: ps)) (Reader.firstOf (p₂ :: q₂ :: qs)) := hp.orElse hq

lemma firstOf {ps : List (Reader α)} (h : ∀ p ∈ ps, Mirrors R p p) :
    Mirrors R (firstOf ps) (firstOf ps) := by
  induction ps with
  | nil => exact .fail
  | cons p ps ih =>
    obtain ⟨hp, hps⟩ := List.forall_mem_cons.mp h
    cases ps with
    | nil => exact hp
    | cons q ps => exact hp.firstOf_cons (ih hps)

lemma many (h : Mirrors R p q) : Mirrors R (many p) (many q) where
  carries _ _ _ _ hs hm := h.carries.many_of_ends hs hm fun _ hu => h.refuses hu
  refuses s _ _ hd := (not_declines_many p s hd).elim

lemma filter (h : Mirrors R p q) (qualifies : α → Bool) :
    Mirrors R (p.filter qualifies) (q.filter qualifies) where
  carries s s' a t hs ha := by
    obtain ⟨ha, hq⟩ := filter_ok.mp ha
    obtain ⟨t', ha', ht⟩ := h.carries hs ha
    exact ⟨t', filter_of_ok ha' hq, ht⟩
  refuses s s' hs hd := by
    rcases filter_declines.mp hd with hd | ⟨a, t, ha, hq⟩
    · exact filter_declines.mpr (.inl (h.refuses hs hd))
    · obtain ⟨t', ha', _⟩ := h.carries hs ha
      exact filter_declines.mpr (.inr ⟨a, t', ha', hq⟩)

lemma below (h : Mirrors R p q) (n : Nat) : Mirrors (Below R n) p q where
  carries := by
    rintro s s' a t ⟨hs, hn⟩ ha
    obtain ⟨t', ha', ht⟩ := h.carries hs ha
    exact ⟨t', ha', ht.mono ⟨ht.related, Nat.lt_of_le_of_lt ht.le' hn⟩⟩
  refuses _ _ hs hd := h.refuses hs.1 hd

end Mirrors

end Reader

end Antecedent.Source
