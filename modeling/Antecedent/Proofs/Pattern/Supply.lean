import Antecedent.Proofs.Pattern.Halts
import Antecedent.Proofs.Scope.Search
import Antecedent.Regex.Reading

/-! The supply of numbers, whatever clauses were resolved before. Only numbers that an author wrote can be
in the way of the next one, in any order and in clauses that were refused as well. -/

namespace Antecedent

namespace Scope

/-- The scope that is left when clauses are resolved one after another, each as the clause at its
index. What a refused clause has bound stays bound. -/
def after [PatternReader] (calls : List (Nat × Clause)) : Scope :=
  calls.foldl (fun s call => (call.2.resolve call.1 s).2) .empty

structure Vacant (s : Scope) (n : UInt32) : Prop where
  ahead : s.next ≤ n
  limit : n < numberLimit
  unbound : s.find? (.generated n) = none

def AheadAmong (written : Tag → Prop) (s : Scope) : Prop :=
  ∀ n, s.next ≤ n → s.isBound (.generated n) = true → written (.generated n)

end Scope

variable {index : Nat} {template : Template} {s s' : Scope} {site : Site} {sites : List Site}
  {a : Atom} {atoms : List Atom} {written : Tag → Prop} {looks : Nat} {n m : UInt32}

section Ahead

variable [PatternReader]

lemma Step.aheadAmong (h : Step index template s site a s') (hs : s.AheadAmong written)
    (hsite : ∀ tag ∈ site.tag, written tag) : s'.AheadAmong written := by
  intro n hn hbound
  by_cases he : .generated n = a.tag
  · have htag := h.tag
    cases ht : site.tag with
    | some tag =>
      rw [ht] at htag
      rw [he, htag.1]
      exact hsite tag ht
    | none =>
      -- A number that was found lies behind the counter from now on.
      rw [ht] at htag
      obtain ⟨m, hm, hown, hnext⟩ := htag
      obtain rfl : n = m := Tag.generated.inj (he.trans hown)
      rw [hnext, UInt32.le_iff_toNat_le, Scope.toNat_succ (Scope.firstFree_spec hm).2.1] at hn
      omega
  · rw [Scope.isBound, h.find?_of_ne he] at hbound
    exact hs n (UInt32.le_trans h.tag.next_le hn) hbound

lemma Run.aheadAmong (h : Run index template s sites atoms s') (hs : s.AheadAmong written)
    (hsites : ∀ site ∈ sites, ∀ tag ∈ site.tag, written tag) : s'.AheadAmong written := by
  induction h with
  | nil s => exact hs
  | cons hstep _ ih =>
    obtain ⟨hsite, hrest⟩ := List.forall_mem_cons.mp hsites
    exact ih (hstep.aheadAmong hs hsite) hrest

lemma Clause.resolve_aheadAmong (index : Nat) (c : Clause) (hs : s.AheadAmong written)
    (hsites : ∀ site ∈ c.sites, ∀ tag ∈ site.tag, written tag) :
    (c.resolve index s).2.AheadAmong written := by
  obtain ⟨_, visited, _, hvisited, hrun⟩ := c.exists_run index s
  exact hrun.aheadAmong hs fun site hsite => hsites site (hvisited.subset hsite)

def WrittenAmong (calls : List (Nat × Clause)) (tag : Tag) : Prop :=
  ∃ call ∈ calls, ∃ site ∈ call.2.sites, site.tag = some tag

lemma Scope.after_aheadAmong (calls : List (Nat × Clause)) :
    (Scope.after calls).AheadAmong (WrittenAmong calls) := by
  have hempty : Scope.empty.AheadAmong (WrittenAmong calls) := by
    intro n _ hbound
    cases hbound
  apply List.foldlRecOn calls _ hempty
  intro s hs call hcall
  apply call.2.resolve_aheadAmong call.1 hs
  intro site hsite tag htag
  exact ⟨call, hcall, site, hsite, htag⟩

end Ahead

namespace Scope.Search

lemma vacant (h : s.Search s.next looks n) : s.Vacant n := by
  obtain ⟨-, hlimit, hle⟩ := firstFree_spec h.freshNumber?_eq
  refine ⟨UInt32.le_iff_toNat_le.mpr hle, ?_, find?_freshNumber? h.freshNumber?_eq⟩
  have hlt : n.toNat < UInt32.size := n.toNat_lt
  have hne : n.toNat ≠ numberLimit.toNat := fun he => hlimit (UInt32.toNat_inj.mp he)
  have hlast : numberLimit.toNat = UInt32.size - 1 := rfl
  rw [UInt32.lt_iff_toNat_lt]
  omega

lemma le_of_vacant (h : s.Search s.next looks n) (hm : s.Vacant m) : n ≤ m := by
  apply UInt32.not_lt.mp
  intro hlt
  have hbound := h.isBound_of_lt hm.ahead hlt
  rw [isBound, hm.unbound] at hbound
  cases hbound

lemma freshTag_eq (h : s.Search s.next looks n) :
    Scoped.freshTag s = (.ok (.generated n), { s with next := n + 1 }) := by
  rw [Scoped.freshTag, h.freshNumber?_eq]

end Scope.Search

/-- As long as one of the numbers ahead is free, the first of these is given out. The search looks once
at each number up to it, and those that it passes over were written by hand. -/
theorem freshTag_least_vacant [PatternReader] {calls : List (Nat × Clause)}
    (hs : Scope.after calls = s) (hroom : ∃ n, s.Vacant n) :
    ∃ n, s.Vacant n ∧ (∀ m, s.Vacant m → n ≤ m) ∧
      Scoped.freshTag s = (.ok (.generated n), { s with next := n + 1 }) ∧
      (n + 1).toNat = n.toNat + 1 ∧
      s.Search s.next (n.toNat - s.next.toNat + 1) n ∧
      ∀ m, s.next ≤ m → m < n → WrittenAmong calls (.generated m) := by
  obtain ⟨free, hfree⟩ := hroom
  obtain ⟨looks, n, hsearch⟩ := Scope.exists_search hfree.ahead hfree.limit hfree.unbound
  have hvacant := hsearch.vacant
  have hlooks : looks = n.toNat - s.next.toNat + 1 := by
    have hnumber := hsearch.number
    have hle := UInt32.le_iff_toNat_le.mp hvacant.ahead
    omega
  refine ⟨n, hvacant, fun m => hsearch.le_of_vacant, hsearch.freshTag_eq,
    Scope.toNat_succ (UInt32.ne_of_lt hvacant.limit), hlooks ▸ hsearch, fun m hle hlt => ?_⟩
  subst hs
  exact Scope.after_aheadAmong calls m hle (hsearch.isBound_of_lt hle hlt)

def numberedAhead : List (Nat × Clause) := [
  (0, ⟨[.target "Order", .tag (.generated 2),
    .tests [.property ⟨⟨["price"]⟩, some (.generated 1), none, .none⟩]]⟩),
  -- Refused at its test, when the head has already taken a number.
  (1, ⟨[.target "Quote", .tests [.property ⟨⟨["ask"]⟩, some (.generated 2), none, .none⟩]]⟩)]

open scoped Regex

theorem numberedAhead_least_vacant :
    (Scope.after numberedAhead).Vacant 3 ∧ (Scope.after numberedAhead).next = 1 ∧
      Scoped.freshTag (Scope.after numberedAhead) =
        (.ok (.generated 3), { Scope.after numberedAhead with next := 4 }) ∧
      (Scope.after numberedAhead).Search 1 3 3 ∧
      WrittenAmong numberedAhead (.generated 1) ∧ WrittenAmong numberedAhead (.generated 2) := by
  have hvacant : (Scope.after numberedAhead).Vacant 3 := ⟨by decide, by decide, rfl⟩
  obtain ⟨n, -, -, hfresh, -, hsearch, hwritten⟩ := freshTag_least_vacant rfl ⟨3, hvacant⟩
  have htag : Scoped.freshTag (Scope.after numberedAhead) =
    (.ok (.generated 3), { Scope.after numberedAhead with next := 4 }) := rfl
  obtain rfl : 3 = n := Tag.generated.inj (Except.ok.inj (Prod.mk.inj (htag.symm.trans hfresh)).1)
  exact ⟨hvacant, rfl, hfresh, hsearch, hwritten 1 (by decide) (by decide),
    hwritten 2 (by decide) (by decide)⟩

end Antecedent
