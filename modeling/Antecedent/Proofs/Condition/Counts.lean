import Antecedent.Proofs.Condition.Disjuncts

namespace Antecedent

lemma saturate_add (m n : Nat) : saturate (saturate m + saturate n) = saturate (m + n) := by
  simp only [saturate]
  omega

lemma saturate_saturate_mul (m n : Nat) : saturate (saturate m * n) = saturate (m * n) := by
  by_cases hm : m ≤ countLimit
  · have hs : saturate m = m := Nat.min_eq_left hm
    rw [hs]
  · have hs : saturate m = countLimit := Nat.min_eq_right (by omega)
    rw [hs]
    -- The factor alone stops the count, except in front of a zero.
    rcases Nat.eq_zero_or_pos n with rfl | hn
    · simp
    · have hlimit : countLimit ≤ countLimit * n := Nat.le_mul_of_pos_right _ hn
      have hexact : m ≤ m * n := Nat.le_mul_of_pos_right _ hn
      simp only [saturate]
      omega

lemma saturate_mul (m n : Nat) : saturate (saturate m * saturate n) = saturate (m * n) := by
  rw [saturate_saturate_mul, Nat.mul_comm, saturate_saturate_mul, Nat.mul_comm]

def Connective.tally : Connective → Nat → Nat → Nat
  | .and, m, n => m * n
  | .or, m, n => m + n

def Connective.start : Connective → Nat
  | .and => 1
  | .or => 0

lemma Connective.tally_assoc (k : Connective) (l m n : Nat) :
    k.tally (k.tally l m) n = k.tally l (k.tally m n) := by
  cases k with
  | and => exact Nat.mul_assoc l m n
  | or => exact Nat.add_assoc l m n

lemma Connective.start_tally (k : Connective) (n : Nat) : k.tally k.start n = n := by
  cases k with
  | and => exact Nat.one_mul n
  | or => exact Nat.zero_add n

lemma saturate_tally (k : Connective) (m n : Nat) :
    saturate (k.tally (saturate m) (saturate n)) = saturate (k.tally m n) := by
  cases k with
  | and => exact saturate_mul m n
  | or => exact saturate_add m n

namespace Condition

lemma length_continueRows (rows alternatives : List (List Clause)) :
    (continueRows rows alternatives).length = rows.length * alternatives.length := by
  induction rows with
  | nil => simp [continueRows]
  | cons row rows ih =>
    simp only [continueRows, List.flatMap_cons, List.length_append, List.length_map] at ih ⊢
    rw [ih, List.length_cons, Nat.succ_mul, Nat.add_comm]

lemma length_disjuncts_nil (k : Connective) (n : Nat) :
    k.tally n (group k []).normalForm.disjuncts.length = n := by
  cases k <;> simp [Connective.tally]

lemma length_disjuncts_cons (k : Connective) (c : Condition) (cs : List Condition) :
    (group k (c :: cs)).normalForm.disjuncts.length =
      k.tally c.normalForm.disjuncts.length (group k cs).normalForm.disjuncts.length := by
  cases k with
  | and => rw [disjuncts_and_cons, length_continueRows, Connective.tally]
  | or => rw [disjuncts_or_cons, List.length_append, Connective.tally]

lemma variantCount_cons (k : Connective) (c : Condition) (cs : List Condition) :
    (group k (c :: cs)).variantCount =
      saturate (k.tally c.variantCount (group k cs).variantCount) := by
  cases k with
  | and => rw [variantCount, variantProduct, variantCount, Connective.tally]
  | or => rw [variantCount, variantSum, variantCount, Connective.tally]

lemma variantCount_eq (c : Condition) :
    c.variantCount = saturate c.normalForm.disjuncts.length := by
  induction c using member_induction with
  | clause c =>
    rw [variantCount, disjuncts_clause]
    rfl
  | nil k => cases k <;> simp [variantCount, variantSum, variantProduct, saturate, countLimit]
  | cons k c cs hc hcs =>
    rw [variantCount_cons, hc, hcs, saturate_tally, length_disjuncts_cons]

lemma foldl_tally (k : Connective) (members : List Condition) (n : Nat) :
    members.foldl (fun n c => saturate (k.tally n c.variantCount)) (saturate n) =
      saturate (k.tally n (group k members).normalForm.disjuncts.length) := by
  induction members generalizing n with
  | nil => rw [List.foldl_nil, length_disjuncts_nil]
  | cons c cs ih =>
    rw [List.foldl_cons, variantCount_eq, saturate_tally, ih, length_disjuncts_cons,
      Connective.tally_assoc]

theorem variantCount_saturates :
    (∀ c : Condition, c.variantCount = min (UInt64.size - 1) c.normalForm.size) ∧
      ∀ k members, (group k members).variantCount =
        members.foldl (fun n c => saturate (k.tally n c.variantCount)) k.start := by
  constructor
  · intro c
    rw [variantCount_eq, saturate, Nat.min_comm]
    rfl
  · intro k members
    have hstart : saturate k.start = k.start := by cases k <;> rfl
    rw [← hstart, foldl_tally, Connective.start_tally, variantCount_eq]

end Condition

end Antecedent
