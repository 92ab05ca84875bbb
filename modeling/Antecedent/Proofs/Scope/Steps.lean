import Antecedent.Pattern.Resolve
import Mathlib.Tactic.Lemma

namespace Antecedent

section Results

variable {ε α β : Type}

lemma map_eq_ok {x : Except ε α} {f : α → β} {b : β} :
    x.map f = .ok b ↔ ∃ a, x = .ok a ∧ f a = b := by
  cases x <;> simp [Except.map]

lemma bind_eq_ok {x : Except ε α} {f : α → Except ε β} {b : β} :
    x.bind f = .ok b ↔ ∃ a, x = .ok a ∧ f a = .ok b := by
  cases x <;> simp [Except.bind]

end Results

namespace Scope

variable {s s' : Scope} {tag : Tag} {b : Binding} {index : Nat} {path : Path} {op : Operator}

lemma mem_of_find? (h : s.find? tag = some b) : (tag, b) ∈ s.bindings := by
  obtain ⟨before, after, he, -⟩ := List.lookup_eq_some_iff.mp h
  rw [he]
  simp

lemma bind?_eq_some :
    s.bind? tag b = some s' ↔ s.find? tag = none ∧ s' = ⟨s.bindings ++ [(tag, b)], s.next⟩ := by
  cases hf : s.find? tag <;> simp [bind?, isBound, hf, eq_comm]

def Supplies (s : Scope) : Option Tag → Tag → UInt32 → Prop
  | some written, tag, next => tag = written ∧ next = s.next
  | none, tag, next => ∃ n, s.freshNumber? = some n ∧ tag = .generated n ∧ next = n + 1

lemma findAll_eq_ok {tags : List Tag} {bs : List Binding} :
    s.findAll path tags = .ok bs ↔ tags.map s.find? = bs.map some := by
  induction tags generalizing bs with
  | nil => cases bs <;> simp [findAll]
  | cons tag tags ih =>
    rw [findAll, List.map_cons]
    cases hb : s.find? tag with
    | none => cases bs <;> simp
    | some b =>
      rw [map_eq_ok]
      cases bs with
      | nil => simp
      | cons b' bs' =>
        simp only [ih, List.cons.injEq, List.map_cons, Option.some.injEq]
        constructor
        · rintro ⟨_, h, rfl, rfl⟩
          exact ⟨rfl, h⟩
        · rintro ⟨rfl, h⟩
          exact ⟨bs', h, rfl, rfl⟩

lemma found {tags : List Tag} {bs : List Binding} (h : tags.map s.find? = bs.map some)
    (ht : tag ∈ tags) : ∃ b ∈ bs, s.find? tag = some b := by
  have hm : s.find? tag ∈ bs.map some := h ▸ List.mem_map_of_mem ht
  obtain ⟨b, hb, hf⟩ := List.mem_map.mp hm
  exact ⟨b, hb, hf.symm⟩

lemma finder {tags : List Tag} {bs : List Binding} (h : tags.map s.find? = bs.map some)
    (hb : b ∈ bs) : ∃ tag ∈ tags, s.find? tag = some b := by
  have hm : some b ∈ tags.map s.find? := h ▸ List.mem_map_of_mem hb
  exact List.mem_map.mp hm

lemma exists_bindings {tags : List Tag} (h : ∀ tag ∈ tags, ∃ b, s.find? tag = some b) :
    ∃ bs : List Binding, tags.map s.find? = bs.map some := by
  induction tags with
  | nil => exact ⟨[], rfl⟩
  | cons tag tags ih =>
    obtain ⟨b, hb⟩ := h tag List.mem_cons_self
    obtain ⟨bs, hbs⟩ := ih fun t ht => h t (List.mem_cons_of_mem _ ht)
    exact ⟨b :: bs, by rw [List.map_cons, List.map_cons, hb, hbs]⟩

lemma references_eq_ok {tags : List Tag} {kind : AtomKind} :
    s.references index path op tags = .ok kind ↔
      tags.length = op.arity ∧ ∃ bs : List Binding, tags.map s.find? = bs.map some ∧
        ((∀ b ∈ bs, b.clause ≠ index) ∧ kind = .reference path op tags ∨
          (∀ b ∈ bs, b.clause = index) ∧ kind = .selfReference path op (bs.map (·.path))) := by
  by_cases hl : tags.length = op.arity
  · simp only [references, hl, ne_eq, not_true_eq_false, if_false, true_and, bind_eq_ok,
      findAll_eq_ok]
    constructor
    · rintro ⟨bs, hbs, hk⟩
      refine ⟨bs, hbs, ?_⟩
      split at hk
      · next hown =>
        refine .inl ⟨?_, (Except.ok.inj hk).symm⟩
        simpa using hown
      · split at hk
        · next hall =>
          have hown := List.length_filter_eq_length_iff.mp hall
          rw [List.filter_eq_self.mpr hown] at hk
          exact .inr ⟨by simpa using hown, (Except.ok.inj hk).symm⟩
        · cases hk
    · rintro ⟨bs, hbs, ⟨hne, rfl⟩ | ⟨hall, rfl⟩⟩
      · exact ⟨bs, hbs, if_pos (by simpa using hne)⟩
      · refine ⟨bs, hbs, ?_⟩
        have hown : bs.filter (·.clause == index) = bs :=
          List.filter_eq_self.mpr (by simpa using hall)
        have hpos : bs ≠ [] := by
          rintro rfl
          have hz : tags.length = 0 := by simpa using hbs
          cases op <;> simp [hz, Operator.arity] at hl
        rw [hown]
        simp [hpos]
  · simp [references, hl]

lemma findAll_eq_error {tags : List Tag} {fault : ClauseFault}
    (h : s.findAll path tags = .error fault) :
    ∃ tag ∈ tags, fault = .unresolvable path.render tag := by
  induction tags with
  | nil => cases h
  | cons tag tags ih =>
    rw [findAll] at h
    split at h
    · cases h
      exact ⟨tag, List.mem_cons_self, rfl⟩
    · cases hf : s.findAll path tags with
      | ok bs =>
        rw [hf] at h
        cases h
      | error e =>
        rw [hf] at h
        cases h
        obtain ⟨missing, hmem, he⟩ := ih hf
        exact ⟨missing, List.mem_cons_of_mem tag hmem, he⟩

lemma references_eq_error {tags : List Tag} {fault : ClauseFault}
    (h : s.references index path op tags = .error fault) :
    tags.length ≠ op.arity ∧ fault = .wrongArity path op tags.length ∨
      (∃ tag ∈ tags, fault = .unresolvable path.render tag) ∨
      fault = .mixedScope path.render op tags := by
  rw [references] at h
  split at h
  · next hl =>
    cases h
    exact .inl ⟨hl, rfl⟩
  · cases hf : s.findAll path tags with
    | error e =>
      rw [hf] at h
      cases h
      exact .inr (.inl (findAll_eq_error hf))
    | ok bs =>
      rw [hf] at h
      simp only [Except.bind] at h
      split at h
      · cases h
      · split at h
        · cases h
        · cases h
          exact .inr (.inr rfl)

end Scope

namespace Scoped

variable {α β : Type} {s s' : Scope} {tag : Tag} {b : Binding} {fault : ClauseFault}

lemma bind_ok {x : Scoped α} {f : α → Scoped β} {c : β} :
    (x >>= f) s = (.ok c, s') ↔ ∃ a s₁, x s = (.ok a, s₁) ∧ f a s₁ = (.ok c, s') := by
  change Scoped.bind x f s = _ ↔ _
  rw [Scoped.bind]
  rcases x s with ⟨e | a, s₁⟩
  · simp
  · constructor
    · intro h
      exact ⟨a, s₁, rfl, h⟩
    · rintro ⟨a', s', h, hf⟩
      cases h
      exact hf

lemma pure_ok {a c : α} : (Pure.pure a : Scoped α) s = (.ok c, s') ↔ a = c ∧ s = s' := by
  change ((.ok a, s) : Except ClauseFault α × Scope) = _ ↔ _
  simp

lemma check_ok {f : Scope → Except ClauseFault α} {c : α} :
    check f s = (.ok c, s') ↔ f s = .ok c ∧ s = s' := by
  simp [check]

lemma bindTag_ok {u : Unit} : bindTag tag b s = (.ok u, s') ↔
    s.find? tag = none ∧ s' = ⟨s.bindings ++ [(tag, b)], s.next⟩ := by
  rw [← Scope.bind?_eq_some, bindTag]
  cases s.bind? tag b <;> simp

lemma tagOrFresh_ok {written : Option Tag} : tagOrFresh written s = (.ok tag, s') ↔
    ∃ next, s.Supplies written tag next ∧ s' = ⟨s.bindings, next⟩ := by
  cases written with
  | some t =>
    simp only [tagOrFresh, Scope.Supplies, Scoped.pure]
    constructor
    · intro h
      cases h
      exact ⟨s.next, ⟨rfl, rfl⟩, rfl⟩
    · rintro ⟨next, ⟨rfl, rfl⟩, rfl⟩
      rfl
  | none =>
    simp only [tagOrFresh, Scope.Supplies, freshTag]
    cases s.freshNumber? with
    | none => simp
    | some n =>
      constructor
      · intro h
        cases h
        exact ⟨n + 1, ⟨n, rfl, rfl, rfl⟩, rfl⟩
      · rintro ⟨next, ⟨m, hm, rfl, rfl⟩, rfl⟩
        cases hm
        rfl

lemma bind_error {x : Scoped α} {f : α → Scoped β} : (x >>= f) s = (.error fault, s') ↔
    x s = (.error fault, s') ∨ ∃ a s₁, x s = (.ok a, s₁) ∧ f a s₁ = (.error fault, s') := by
  change Scoped.bind x f s = _ ↔ _
  rw [Scoped.bind]
  rcases x s with ⟨e | a, s₁⟩
  · simp
  · constructor
    · intro h
      exact .inr ⟨a, s₁, rfl, h⟩
    · rintro (h | ⟨a', s', h, hf⟩)
      · cases h
      · cases h
        exact hf

lemma check_error {f : Scope → Except ClauseFault α} :
    check f s = (.error fault, s') ↔ f s = .error fault ∧ s = s' := by
  simp [check]

lemma tagOrFresh_error {written : Option Tag} (h : tagOrFresh written s = (.error fault, s')) :
    written = none ∧ s.freshNumber? = none ∧ fault = .tagsExhausted ∧ s' = s := by
  cases written with
  | some t => cases h
  | none =>
    simp only [tagOrFresh, freshTag] at h
    split at h
    · cases h
    · next hn =>
      cases h
      exact ⟨rfl, hn, rfl, rfl⟩

lemma bindTag_error (h : bindTag tag b s = (.error fault, s')) :
    s.isBound tag = true ∧ fault = .duplicateTag tag ∧ s' = s := by
  rw [bindTag, Scope.bind?] at h
  by_cases hbound : s.isBound tag = true
  · rw [if_pos hbound] at h
    cases h
    exact ⟨hbound, rfl, rfl⟩
  · rw [if_neg hbound] at h
    cases h

end Scoped

end Antecedent
