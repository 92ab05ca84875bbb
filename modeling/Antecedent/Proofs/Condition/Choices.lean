import Antecedent.Proofs.Condition.Disjuncts
import Mathlib.Data.List.Forall2

/-! Ways through a condition: one member at each OR group that is reached, all members at each AND
group. The rows of the normal form are these ways in lexicographic order. -/

namespace Antecedent.Condition

/-- A way through a condition: the positions picked at its OR groups, from left to right and from
the outside in, and the clauses met. -/
inductive Chooses : Condition → List Nat → List Clause → Prop
  | clause (c : Clause) : Chooses (.clause c) [] [c]
  | pick {members : List Condition} {i : Nat} {c : Condition} {picks : List Nat}
      {row : List Clause} : members[i]? = some c → Chooses c picks row →
      Chooses (.group .or members) (i :: picks) row
  | done : Chooses (.group .and []) [] []
  | both {c : Condition} {cs : List Condition} {picks picks' : List Nat}
      {row row' : List Clause} : Chooses c picks row → Chooses (.group .and cs) picks' row' →
      Chooses (.group .and (c :: cs)) (picks ++ picks') (row ++ row')

lemma chooses_or_cons {c : Condition} {cs : List Condition} {picks : List Nat}
    {row : List Clause} :
    Chooses (.group .or (c :: cs)) picks row ↔
      (∃ p, picks = 0 :: p ∧ Chooses c p row) ∨
        ∃ i p, picks = (i + 1) :: p ∧ Chooses (.group .or cs) (i :: p) row := by
  constructor
  · intro h
    cases h with
    | @pick _ i d p _ hi hd =>
      cases i with
      | zero =>
        obtain rfl : c = d := by simpa using hi
        exact .inl ⟨p, rfl, hd⟩
      | succ i => exact .inr ⟨i, p, rfl, .pick (by simpa using hi) hd⟩
  · rintro (⟨p, rfl, h⟩ | ⟨i, p, rfl, h⟩)
    · exact .pick rfl h
    · cases h with
      | pick hi hd => exact .pick (by simpa using hi) hd

lemma chooses_and_cons {c : Condition} {cs : List Condition} {picks : List Nat}
    {row : List Clause} :
    Chooses (.group .and (c :: cs)) picks row ↔
      ∃ p p' r r', picks = p ++ p' ∧ row = r ++ r' ∧ Chooses c p r ∧
        Chooses (.group .and cs) p' r' := by
  constructor
  · intro h
    cases h with
    | both h h' => exact ⟨_, _, _, _, rfl, rfl, h, h'⟩
  · rintro ⟨p, p', r, r', rfl, rfl, h, h'⟩
    exact .both h h'

lemma Chooses.unique {c : Condition} {p q r s : List Nat} {row row' : List Clause}
    (hp : Chooses c p row) (hq : Chooses c q row') (he : p ++ r = q ++ s) :
    row = row' ∧ r = s := by
  induction c using member_induction generalizing p q r s row row' with
  | clause c =>
    cases hp
    cases hq
    exact ⟨rfl, he⟩
  | nil k =>
    cases k with
    | and =>
      cases hp
      cases hq
      exact ⟨rfl, he⟩
    | or =>
      cases hp with
      | pick hi _ => simp at hi
  | cons k c cs hc hcs =>
    cases k with
    | and =>
      obtain ⟨p₁, p₂, r₁, r₂, rfl, rfl, h₁, h₂⟩ := chooses_and_cons.mp hp
      obtain ⟨q₁, q₂, s₁, s₂, rfl, rfl, k₁, k₂⟩ := chooses_and_cons.mp hq
      simp only [List.append_assoc] at he
      obtain ⟨rfl, he'⟩ := hc h₁ k₁ he
      obtain ⟨rfl, hrs⟩ := hcs h₂ k₂ he'
      exact ⟨rfl, hrs⟩
    | or =>
      rcases chooses_or_cons.mp hp with ⟨p', rfl, h⟩ | ⟨i, p', rfl, h⟩ <;>
        rcases chooses_or_cons.mp hq with ⟨q', rfl, k⟩ | ⟨j, q', rfl, k⟩ <;>
        simp only [List.cons_append, List.cons.injEq] at he
      · exact hc h k he.2
      · omega
      · omega
      · exact hcs h k (by simpa using he)

/-- At the first difference the left list has the smaller entry. A list does not come before its
own extensions here, so that nothing written behind the two lists can turn them round. -/
def ComesBefore (p q : List Nat) : Prop :=
  ∃ shared a b p' q', p = shared ++ a :: p' ∧ q = shared ++ b :: q' ∧ a < b

namespace ComesBefore

variable {p q : List Nat}

lemma lt (h : ComesBefore p q) : p < q := by
  obtain ⟨shared, a, b, p', q', rfl, rfl, hab⟩ := h
  induction shared with
  | nil => exact List.Lex.rel hab
  | cons n shared ih => exact List.Lex.cons ih

lemma append (h : ComesBefore p q) (r s : List Nat) : ComesBefore (p ++ r) (q ++ s) := by
  obtain ⟨shared, a, b, p', q', rfl, rfl, hab⟩ := h
  exact ⟨shared, a, b, p' ++ r, q' ++ s, by simp, by simp, hab⟩

lemma append_left (h : ComesBefore p q) (r : List Nat) : ComesBefore (r ++ p) (r ++ q) := by
  obtain ⟨shared, a, b, p', q', rfl, rfl, hab⟩ := h
  exact ⟨r ++ shared, a, b, p', q', by simp, by simp, hab⟩

end ComesBefore

structure Enumerates (c : Condition) (choices : List (List Nat)) : Prop where
  ordered : choices.Pairwise ComesBefore
  complete : ∀ picks row, Chooses c picks row → picks ∈ choices
  rows : List.Forall₂ (Chooses c) choices c.normalForm.disjuncts

lemma forall₂_left {α β : Type} {R : α → β → Prop} {as : List α} {bs : List β}
    (h : List.Forall₂ R as bs) {a : α} (ha : a ∈ as) : ∃ b, R a b := by
  induction h with
  | nil => simp at ha
  | cons hr _ ih =>
    rcases List.mem_cons.mp ha with rfl | ha
    · exact ⟨_, hr⟩
    · exact ih ha

lemma enumerates_clause (c : Clause) : Enumerates (.clause c) [[]] where
  ordered := by simp
  complete picks row h := by
    cases h
    simp
  rows := by simpa using Chooses.clause c

lemma enumerates_and_nil : Enumerates (.group .and []) [[]] where
  ordered := by simp
  complete picks row h := by
    cases h
    simp
  rows := by simpa using Chooses.done

lemma enumerates_or_nil : Enumerates (.group .or []) [] where
  ordered := by simp
  complete picks row h := by
    cases h with
    | pick hi _ => simp at hi
  rows := by simp

lemma enumerates_and_cons {c : Condition} {cs : List Condition} {ps qs : List (List Nat)}
    (hc : Enumerates c ps) (hcs : Enumerates (.group .and cs) qs) :
    Enumerates (.group .and (c :: cs)) (ps.flatMap fun p => qs.map (p ++ ·)) where
  ordered := by
    rw [List.pairwise_flatMap]
    constructor
    · intro p _
      rw [List.pairwise_map]
      exact hcs.ordered.imp fun h => h.append_left p
    · refine hc.ordered.imp ?_
      intro p p' hp q hq q' hq'
      obtain ⟨s, _, rfl⟩ := List.mem_map.mp hq
      obtain ⟨s', _, rfl⟩ := List.mem_map.mp hq'
      exact hp.append s s'
  complete picks row h := by
    obtain ⟨p, q, r, r', rfl, rfl, hp, hq⟩ := chooses_and_cons.mp h
    exact List.mem_flatMap.mpr ⟨p, hc.complete p r hp,
      List.mem_map.mpr ⟨q, hcs.complete q r' hq, rfl⟩⟩
  rows := by
    rw [disjuncts_and_cons]
    refine List.rel_flatMap hc.rows ?_
    intro p r hp
    rw [List.forall₂_map_left_iff, List.forall₂_map_right_iff]
    exact hcs.rows.imp fun q r' hq => Chooses.both hp hq

def nextMember : List Nat → List Nat
  | [] => []
  | i :: picks => (i + 1) :: picks

lemma nextMember_chooses {c : Condition} {cs : List Condition} {picks : List Nat}
    {row : List Clause} (h : Chooses (.group .or cs) picks row) :
    Chooses (.group .or (c :: cs)) (nextMember picks) row := by
  cases h with
  | @pick _ i d p _ hi hd => exact .pick (by simpa using hi) hd

lemma nextMember_comesBefore {p q : List Nat} (h : ComesBefore p q) :
    ComesBefore (nextMember p) (nextMember q) := by
  obtain ⟨shared, a, b, p', q', rfl, rfl, hab⟩ := h
  cases shared with
  | nil => exact ⟨[], a + 1, b + 1, p', q', rfl, rfl, by omega⟩
  | cons n shared => exact ⟨(n + 1) :: shared, a, b, p', q', rfl, rfl, hab⟩

lemma enumerates_or_cons {c : Condition} {cs : List Condition} {ps qs : List (List Nat)}
    (hc : Enumerates c ps) (hcs : Enumerates (.group .or cs) qs) :
    Enumerates (.group .or (c :: cs)) (ps.map (0 :: ·) ++ qs.map nextMember) where
  ordered := by
    rw [List.pairwise_append, List.pairwise_map, List.pairwise_map]
    refine ⟨hc.ordered.imp fun h => h.append_left [0],
      hcs.ordered.imp fun h => nextMember_comesBefore h, ?_⟩
    intro p hp q hq
    obtain ⟨p', _, rfl⟩ := List.mem_map.mp hp
    obtain ⟨q', hq', rfl⟩ := List.mem_map.mp hq
    obtain ⟨row, hrow⟩ := forall₂_left hcs.rows hq'
    cases hrow with
    | @pick _ i _ q _ _ _ => exact ⟨[], 0, i + 1, p', q, rfl, rfl, by omega⟩
  complete picks row h := by
    rcases chooses_or_cons.mp h with ⟨p, rfl, hp⟩ | ⟨i, p, rfl, hp⟩
    · exact List.mem_append_left _ (List.mem_map.mpr ⟨p, hc.complete p row hp, rfl⟩)
    · exact List.mem_append_right _ (List.mem_map.mpr ⟨i :: p, hcs.complete _ row hp, rfl⟩)
  rows := by
    rw [disjuncts_or_cons]
    refine List.rel_append ?_ ?_
    · rw [List.forall₂_map_left_iff]
      exact hc.rows.imp fun p r hp => Chooses.pick rfl hp
    · rw [List.forall₂_map_left_iff]
      exact hcs.rows.imp fun q r hq => nextMember_chooses hq

lemma exists_enumerates (c : Condition) : ∃ choices, Enumerates c choices := by
  induction c using member_induction with
  | clause c => exact ⟨_, enumerates_clause c⟩
  | nil k =>
    cases k with
    | and => exact ⟨_, enumerates_and_nil⟩
    | or => exact ⟨_, enumerates_or_nil⟩
  | cons k c cs hc hcs =>
    obtain ⟨ps, hp⟩ := hc
    obtain ⟨qs, hq⟩ := hcs
    cases k with
    | and => exact ⟨_, enumerates_and_cons hp hq⟩
    | or => exact ⟨_, enumerates_or_cons hp hq⟩

theorem disjuncts_enumerate_choices (c : Condition) :
    (∀ picks row row', Chooses c picks row → Chooses c picks row' → row = row') ∧
      ∃ choices : List (List Nat), choices.Pairwise (· < ·) ∧
        (∀ picks, picks ∈ choices ↔ ∃ row, Chooses c picks row) ∧
        List.Forall₂ (Chooses c) choices c.normalForm.disjuncts := by
  refine ⟨fun picks row row' h h' => (h.unique h' (rfl : picks ++ [] = picks ++ [])).1, ?_⟩
  obtain ⟨choices, he⟩ := exists_enumerates c
  refine ⟨choices, he.ordered.imp fun h => h.lt, ?_, he.rows⟩
  intro picks
  constructor
  · intro h
    exact forall₂_left he.rows h
  · rintro ⟨row, h⟩
    exact he.complete picks row h

end Antecedent.Condition
