import Antecedent.Proofs.Scope.Fresh

namespace Antecedent.Scope

variable {s : Scope} {n m k : UInt32} {looks tries : Nat}

inductive Search (s : Scope) : UInt32 → Nat → UInt32 → Prop
  | found {n : UInt32} : n ≠ numberLimit → s.find? (.generated n) = none → Search s n 1 n
  | passed {n m : UInt32} {looks : Nat} : n ≠ numberLimit → s.isBound (.generated n) = true →
      Search s (n + 1) looks m → Search s n (looks + 1) m

namespace Search

lemma number (h : Search s n looks m) : m.toNat + 1 = n.toNat + looks := by
  induction h with
  | found _ _ => rfl
  | passed hn _ _ ih =>
    rw [toNat_succ hn] at ih
    omega

lemma isBound_of_lt (h : Search s n looks m) (hle : n ≤ k) (hlt : k < m) :
    s.isBound (.generated k) = true := by
  induction h with
  | found _ _ => exact absurd hlt (UInt32.not_lt.mpr hle)
  | @passed n _ _ hn hbound _ ih =>
    by_cases he : k = n
    · rwa [he]
    · apply ih _ hlt
      rw [UInt32.le_iff_toNat_le] at hle ⊢
      have hne : k.toNat ≠ n.toNat := fun h => he (UInt32.toNat_inj.mp h)
      rw [toNat_succ hn]
      omega

lemma exists_passed (h : Search s n looks m) : ∃ tags : List Tag, tags.length + 1 = looks ∧
    tags.Nodup ∧ tags ⊆ s.bindings.map Prod.fst ∧
      ∀ tag ∈ tags, ∃ k : UInt32, tag = .generated k ∧ n.toNat ≤ k.toNat := by
  induction h with
  | found _ _ => exact ⟨[], rfl, .nil, List.nil_subset _, by simp⟩
  | @passed n _ _ hn hbound _ ih =>
    obtain ⟨tags, rfl, hnodup, hsub, hfrom⟩ := ih
    rw [toNat_succ hn] at hfrom
    obtain ⟨b, hb⟩ := Option.isSome_iff_exists.mp hbound
    refine ⟨.generated n :: tags, rfl, ?_, ?_, ?_⟩
    · refine List.nodup_cons.mpr ⟨fun hmem => ?_, hnodup⟩
      obtain ⟨k, he, hk⟩ := hfrom _ hmem
      cases he
      omega
    · refine List.cons_subset.mpr ⟨?_, hsub⟩
      exact List.mem_map.mpr ⟨_, mem_of_find? hb, rfl⟩
    · refine List.forall_mem_cons.mpr ⟨⟨n, rfl, Nat.le_refl _⟩, fun tag htag => ?_⟩
      obtain ⟨k, he, hk⟩ := hfrom tag htag
      exact ⟨k, he, by omega⟩

lemma looks_le (h : Search s n looks m) : looks ≤ s.size + 1 := by
  obtain ⟨tags, rfl, hnodup, hsub, -⟩ := h.exists_passed
  have hle := hnodup.length_le_of_subset hsub
  rw [List.length_map] at hle
  exact Nat.succ_le_succ hle

lemma firstFree_eq (h : Search s n looks m) (hle : looks ≤ tries) :
    firstFree (fun k => s.isBound (.generated k)) tries n = some m := by
  induction h generalizing tries with
  | found hn hfree =>
    cases tries with
    | zero => cases hle
    | succ tries => rw [firstFree, if_neg hn, if_neg (by simp [isBound, hfree])]
  | passed hn hbound _ ih =>
    cases tries with
    | zero => cases hle
    | succ tries =>
      rw [firstFree, if_neg hn, if_pos hbound]
      exact ih (Nat.le_of_succ_le_succ hle)

lemma freshNumber?_eq (h : Search s s.next looks m) : s.freshNumber? = some m :=
  h.firstFree_eq h.looks_le

end Search

lemma exists_search (hle : n ≤ k) (hlt : k < numberLimit) (hfree : s.find? (.generated k) = none) :
    ∃ looks m, Search s n looks m := by
  obtain ⟨gap, hgap⟩ := Nat.exists_eq_add_of_le (UInt32.le_iff_toNat_le.mp hle)
  -- The number that is known to be free is one step closer after each look.
  induction gap generalizing n with
  | zero =>
    obtain rfl : k = n := UInt32.toNat_inj.mp hgap
    exact ⟨1, k, .found (UInt32.ne_of_lt hlt) hfree⟩
  | succ gap ih =>
    have hn : n ≠ numberLimit := UInt32.ne_of_lt (UInt32.lt_of_le_of_lt hle hlt)
    cases hf : s.find? (.generated n) with
    | none => exact ⟨1, n, .found hn hf⟩
    | some b =>
      have hnext : k.toNat = (n + 1).toNat + gap := by
        rw [toNat_succ hn, hgap]
        omega
      obtain ⟨looks, m, hsearch⟩ := ih (UInt32.le_iff_toNat_le.mpr (by omega)) hnext
      exact ⟨looks + 1, m, .passed hn (by simp [isBound, hf]) hsearch⟩

end Antecedent.Scope
