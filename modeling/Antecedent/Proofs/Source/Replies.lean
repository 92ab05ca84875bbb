import Antecedent.Source.Reader
import Mathlib.Tactic.Lemma

namespace Antecedent.Source

variable {α β : Type}

def Reader.Declines (p : Reader α) (s : List Char) : Prop :=
  ∃ expected rest, p s = .fail ⟨.retry, expected, rest⟩

namespace Reader

variable {p q : Reader α} {f : α → Reader β} {g : α → β} {ps : List (Reader α)}
  {s t u : List Char} {a : α} {b : β} {as : List α} {what : Expectation} {word : String}
  {qualifies : α → Bool}

lemma declines_of_fail {e : Failure} (h : p s = .fail e) (hs : e.severity = .retry) :
    p.Declines s := by
  obtain ⟨severity, expected, rest⟩ := e
  obtain rfl : severity = .retry := hs
  exact ⟨expected, rest, h⟩

lemma Declines.not_ok (h : p.Declines s) : p s ≠ .ok a t := by
  obtain ⟨expected, rest, h⟩ := h
  simp [h]

lemma bind_apply (p : Reader α) (f : α → Reader β) (s : List Char) :
    (p >>= f) s = match p s with
      | .ok a rest => f a rest
      | .fail e => .fail e := rfl

lemma bind_of_ok (h : p s = .ok a t) : (p >>= f) s = f a t := by
  rw [bind_apply, h]

lemma bind_ok : (p >>= f) s = .ok b u ↔ ∃ a t, p s = .ok a t ∧ f a t = .ok b u := by
  rw [bind_apply]
  cases hp : p s with
  | ok a t =>
    constructor
    · intro h
      exact ⟨a, t, rfl, h⟩
    · rintro ⟨_, _, he, h⟩
      cases he
      exact h
  | fail e => simp

lemma bind_declines : (p >>= f).Declines s ↔
    p.Declines s ∨ ∃ a t, p s = .ok a t ∧ (f a).Declines t := by
  simp only [Declines, bind_apply]
  cases hp : p s with
  | ok a t =>
    constructor
    · intro h
      exact .inr ⟨a, t, rfl, h⟩
    · rintro (⟨_, _, he⟩ | ⟨_, _, he, h⟩)
      · cases he
      · cases he
        exact h
  | fail e => simp

lemma pure_ok {c : α} : (Pure.pure a : Reader α) s = .ok c t ↔ a = c ∧ s = t := by
  change Reply.ok a s = _ ↔ _
  simp

lemma map_ok : (g <$> p) s = .ok b t ↔ ∃ a, p s = .ok a t ∧ g a = b := by
  change (p >>= fun a => Pure.pure (g a)) s = _ ↔ _
  simp only [bind_ok, pure_ok]
  constructor
  · rintro ⟨a, _, hp, hg, rfl⟩
    exact ⟨a, hp, hg⟩
  · rintro ⟨a, hp, hg⟩
    exact ⟨a, t, hp, hg, rfl⟩

lemma map_of_ok (h : p s = .ok a t) : (g <$> p) s = .ok (g a) t :=
  map_ok.mpr ⟨a, h, rfl⟩

lemma map_declines : (g <$> p).Declines s ↔ p.Declines s := by
  change (p >>= fun a => Pure.pure (g a)).Declines s ↔ _
  rw [bind_declines, or_iff_left]
  rintro ⟨_, _, _, _, _, ⟨⟩⟩

lemma orElse_ok (h : p.orElse q s = .ok a t) :
    p s = .ok a t ∨ p.Declines s ∧ q s = .ok a t := by
  rw [orElse] at h
  split at h
  · next b u hp =>
    rw [h] at hp
    exact .inl hp
  · next e hp =>
    split at h
    · next hs => exact .inr ⟨declines_of_fail hp hs, h⟩
    · cases h

lemma orElse_of_declines (h : p.Declines s) : p.orElse q s = q s := by
  obtain ⟨expected, rest, h⟩ := h
  simp [orElse, h]

lemma orElse_of_ok (h : p s = .ok a t) : p.orElse q s = .ok a t := by
  simp [orElse, h]

lemma orElse_declines : (p.orElse q).Declines s ↔ p.Declines s ∧ q.Declines s := by
  constructor
  · rintro ⟨expected, rest, h⟩
    rw [orElse] at h
    split at h
    · cases h
    · next e hp =>
      split at h
      · next hs => exact ⟨declines_of_fail hp hs, expected, rest, h⟩
      · next hs =>
        cases h
        exact (hs rfl).elim
  · rintro ⟨hp, expected, rest, hq⟩
    exact ⟨expected, rest, by rw [orElse_of_declines hp, hq]⟩

lemma firstOf_of_ok (h : p s = .ok a t) : firstOf (p :: ps) s = .ok a t := by
  cases ps with
  | nil => exact h
  | cons q ps => exact orElse_of_ok h

lemma firstOf_of_declines (h : p.Declines s) :
    firstOf (p :: q :: ps) s = firstOf (q :: ps) s := orElse_of_declines h

lemma mem_of_firstOf_ok (h : firstOf ps s = .ok a t) : ∃ p ∈ ps, p s = .ok a t := by
  induction ps with
  | nil => cases h
  | cons p ps ih =>
    cases ps with
    | nil => exact ⟨p, List.mem_cons_self, h⟩
    | cons q ps =>
      rcases orElse_ok h with hp | ⟨_, hrest⟩
      · exact ⟨p, List.mem_cons_self, hp⟩
      · obtain ⟨r, hr, hok⟩ := ih hrest
        exact ⟨r, List.mem_cons_of_mem p hr, hok⟩

lemma optional_of_ok (h : p s = .ok a t) : p.optional s = .ok (some a) t := by
  simp [optional, h]

lemma optional_of_declines (h : p.Declines s) : p.optional s = .ok none s := by
  obtain ⟨expected, rest, h⟩ := h
  simp [optional, h]

lemma optional_ok {x : Option α} (h : p.optional s = .ok x t) :
    (x = none ∧ t = s ∧ p.Declines s) ∨ ∃ a, x = some a ∧ p s = .ok a t := by
  rw [optional] at h
  split at h
  · next a u hp =>
    cases h
    exact .inr ⟨a, rfl, hp⟩
  · next e hp =>
    split at h
    · next hs =>
      cases h
      exact .inl ⟨rfl, rfl, declines_of_fail hp hs⟩
    · cases h

lemma not_declines_optional : ¬ p.optional.Declines s := by
  rintro ⟨expected, rest, h⟩
  rw [optional] at h
  split at h
  · cases h
  · split at h
    · cases h
    · next hs =>
      cases h
      exact hs rfl

lemma many_of_declines (h : p.Declines s) : many p s = .ok [] s := by
  obtain ⟨expected, rest, h⟩ := h
  rw [many]
  simp [h]

lemma many_of_ok (h : p s = .ok a t) (hlt : t.length < s.length) (hmore : many p t = .ok as u) :
    many p s = .ok (a :: as) u := by
  rw [many]
  simp [h, hlt, hmore]

lemma many_ok (h : many p s = .ok as u) :
    (as = [] ∧ u = s ∧ p.Declines s) ∨ ∃ a more t, as = a :: more ∧ p s = .ok a t ∧
      t.length < s.length ∧ many p t = .ok more u := by
  rw [many] at h
  split at h
  · next e hp =>
    split at h
    · next hs =>
      cases h
      exact .inl ⟨rfl, rfl, declines_of_fail hp hs⟩
    · cases h
  · next a t hp =>
    split at h
    · next hlt =>
      split at h
      · next more v hm =>
        cases h
        exact .inr ⟨a, more, t, rfl, hp, hlt, hm⟩
      · cases h
    · cases h

lemma not_declines_many (p : Reader α) (s : List Char) : ¬ Declines (many p) s := by
  rintro ⟨expected, rest, h⟩
  fun_induction many p s with
  | case1 s e hp hs => cases h
  | case2 s e hp hs =>
    cases h
    exact hs rfl
  | case3 s a t hp hlt as last hmore ih => cases h
  | case4 s a t hp hlt e hmore ih =>
    cases h
    exact ih hmore
  | case5 s a t hp hlt => cases h

lemma commit_of_ok (h : p s = .ok a t) : p.commit s = .ok a t := by
  simp [commit, h]

lemma commit_ok : p.commit s = .ok a t ↔ p s = .ok a t := by
  rw [commit]
  cases p s <;> simp

lemma not_declines_commit : ¬ p.commit.Declines s := by
  rintro ⟨expected, rest, h⟩
  rw [commit] at h
  split at h
  · cases h
  · next e hp =>
    split at h
    · cases h
    · next hs =>
      cases h
      exact hs rfl

lemma expecting_of_ok (h : p s = .ok a t) : p.expecting what s = .ok a t := by
  simp [expecting, h]

lemma expecting_ok : p.expecting what s = .ok a t ↔ p s = .ok a t := by
  rw [expecting]
  cases p s <;> simp

lemma expecting_declines : (p.expecting what).Declines s ↔ p.Declines s := by
  simp only [Declines, expecting]
  cases hp : p s with
  | ok a t => simp
  | fail e =>
    obtain ⟨severity, expected, rest⟩ := e
    simp

lemma filter_of_ok (h : p s = .ok a t) (ha : qualifies a = true) :
    p.filter qualifies s = .ok a t := by
  simp [filter, h, ha]

lemma filter_ok : p.filter qualifies s = .ok a t ↔ p s = .ok a t ∧ qualifies a = true := by
  rw [filter]
  cases p s with
  | fail e => simp
  | ok b u =>
    by_cases hb : qualifies b = true
    · simp only [hb, if_true, Reply.ok.injEq]
      constructor
      · rintro ⟨rfl, rfl⟩
        exact ⟨⟨rfl, rfl⟩, hb⟩
      · exact And.left
    · simp only [hb, Reply.ok.injEq]
      constructor
      · rintro ⟨⟩
      · rintro ⟨⟨rfl, rfl⟩, ha⟩
        exact (hb ha).elim

lemma filter_declines : (p.filter qualifies).Declines s ↔
    p.Declines s ∨ ∃ a t, p s = .ok a t ∧ qualifies a = false := by
  simp only [Declines, filter]
  cases hp : p s with
  | fail e => simp
  | ok a t => by_cases ha : qualifies a = true <;> simp [ha]

lemma separatedBy_ok {separator : Reader β} (h : p.separatedBy separator s = .ok as u) :
    (as = [] ∧ u = s ∧ p.Declines s) ∨ ∃ a more t, as = a :: more ∧ p s = .ok a t ∧
      many (do let _ ← separator; p) t = .ok more u := by
  obtain ⟨x, t, hx, hrest⟩ := bind_ok.mp h
  rcases optional_ok hx with ⟨rfl, rfl, hd⟩ | ⟨a, rfl, ha⟩
  · obtain ⟨rfl, rfl⟩ := pure_ok.mp hrest
    exact .inl ⟨rfl, rfl, hd⟩
  · obtain ⟨more, v, hm, hp⟩ := bind_ok.mp hrest
    obtain ⟨rfl, rfl⟩ := pure_ok.mp hp
    exact .inr ⟨a, more, t, rfl, ha, hm⟩

lemma literal_of_append (word : String) (rest : List Char) :
    literal word (word.toList ++ rest) = .ok () rest := by
  have hp : word.toList.isPrefixOf (word.toList ++ rest) = true :=
    List.isPrefixOf_iff_prefix.mpr ⟨rest, rfl⟩
  have hl : word.length = word.toList.length := String.length_toList.symm
  simp only [literal, hp, if_true, hl, List.drop_left]

lemma literal_cases (word : String) (s : List Char) :
    (∃ rest, s = word.toList ++ rest) ∨ (literal word).Declines s := by
  by_cases hp : word.toList.isPrefixOf s = true
  · obtain ⟨rest, rfl⟩ := List.isPrefixOf_iff_prefix.mp hp
    exact .inl ⟨rest, rfl⟩
  · exact .inr ⟨[], s, by simp [literal, hp]⟩

lemma literal_ok : literal word s = .ok () t ↔ s = word.toList ++ t := by
  constructor
  · intro h
    rcases literal_cases word s with ⟨rest, rfl⟩ | hd
    · rw [literal_of_append] at h
      cases h
      rfl
    · exact (hd.not_ok h).elim
  · rintro rfl
    exact literal_of_append word t

lemma literal_declines {c : Char} {cs : List Char} (hw : word.toList = c :: cs)
    (h : ∀ d ∈ s.head?, d ≠ c) : (literal word).Declines s := by
  rcases literal_cases word s with ⟨rest, rfl⟩ | hd
  · rw [hw] at h
    exact (h c rfl rfl).elim
  · exact hd

namespace Declines

lemma bind (h : p.Declines s) : (p >>= f).Declines s := by
  obtain ⟨expected, rest, h⟩ := h
  refine ⟨expected, rest, ?_⟩
  rw [bind_apply, h]

lemma bind_of_ok (h : p s = .ok a t) (hf : (f a).Declines t) : (p >>= f).Declines s := by
  obtain ⟨expected, rest, hf⟩ := hf
  exact ⟨expected, rest, by rw [Reader.bind_of_ok h, hf]⟩

lemma map (h : p.Declines s) : (g <$> p).Declines s := bind h

lemma firstOf (h : ∀ p ∈ ps, p.Declines s) : (firstOf ps).Declines s := by
  induction ps with
  | nil => exact ⟨[], s, rfl⟩
  | cons p ps ih =>
    cases ps with
    | nil => exact h p List.mem_cons_self
    | cons q ps =>
      obtain ⟨expected, rest, he⟩ := ih fun r hr => h r (List.mem_cons_of_mem p hr)
      exact ⟨expected, rest, by rw [firstOf_of_declines (h p List.mem_cons_self), he]⟩

end Declines

end Reader

end Antecedent.Source
