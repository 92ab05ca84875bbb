import Antecedent.Proofs.Scope.Steps

namespace Antecedent.Scope

variable {s : Scope} {tag : Tag} {written : Option Tag} {n m next : UInt32}

lemma toNat_succ (h : n ≠ numberLimit) : (n + 1).toNat = n.toNat + 1 := by
  have hlt : n.toNat < UInt32.size := n.toNat_lt
  have hne : n.toNat ≠ UInt32.size - 1 := fun he => h (UInt32.toNat_inj.mp he)
  rw [UInt32.toNat_add, UInt32.toNat_one]
  apply Nat.mod_eq_of_lt
  change n.toNat + 1 < UInt32.size
  omega

lemma firstFree_spec {taken : UInt32 → Bool} {tries : Nat}
    (h : firstFree taken tries n = some m) :
    taken m = false ∧ m ≠ numberLimit ∧ n.toNat ≤ m.toNat := by
  induction tries generalizing n with
  | zero => cases h
  | succ tries ih =>
    rw [firstFree] at h
    split at h
    · cases h
    · next hlimit =>
      split at h
      · obtain ⟨hfree, hm, hle⟩ := ih h
        rw [toNat_succ hlimit] at hle
        exact ⟨hfree, hm, by omega⟩
      · next hfree =>
        cases h
        exact ⟨Bool.eq_false_iff.mpr hfree, hlimit, Nat.le_refl _⟩

lemma find?_freshNumber? (h : s.freshNumber? = some n) : s.find? (.generated n) = none := by
  have hfree : s.isBound (.generated n) = false := (firstFree_spec h).1
  exact Option.isNone_iff_eq_none.mp (Option.isSome_eq_false_iff.mp hfree)

lemma Supplies.next_le (h : s.Supplies written tag next) : s.next ≤ next := by
  rw [UInt32.le_iff_toNat_le]
  cases written with
  | some t =>
    obtain ⟨-, rfl⟩ := h
    exact Nat.le_refl _
  | none =>
    obtain ⟨n, hn, -, rfl⟩ := h
    obtain ⟨-, hlimit, hle⟩ := firstFree_spec hn
    rw [toNat_succ hlimit]
    omega

end Antecedent.Scope
