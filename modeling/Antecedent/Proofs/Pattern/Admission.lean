import Antecedent.Proofs.Pattern.Resolution

/-! Which sites can be visited, told from the tags written before them and without a scope. -/

namespace Antecedent

structure Place where
  clause : Nat
  site : Site

def PropertyTest.Legal [PatternReader] (t : PropertyTest) : Prop :=
  match t.op, t.operand with
  | none, .none => True
  | some op, .value _ => op ∈ [.eq, .notEq, .gt, .gte, .lt, .lte]
  | some op, .range _ _ => op = .between
  | some op, .pattern source => op = .matching ∧ ∃ m, PatternReader.read source = .ok m
  | some op, .type _ => op = .isA
  | some op, .refs tags => op ≠ .ne ∧ tags.length = op.arity
  | some op, .nested _ => op ≠ .ne ∧ op ≠ .between
  | _, _ => False

def Operand.references : Operand → List Tag
  | .refs tags => tags
  | _ => []

namespace Site

def refs : Site → List Tag
  | .test (.property t) => t.operand.references
  | _ => []

def Legal [PatternReader] : Site → Prop
  | .test (.property t) => t.Legal
  | _ => True

def Named (site : Site) : Prop :=
  (∀ tag ∈ site.tag, tag.isGenerated = false) ∧ ∀ tag ∈ site.refs, tag.isGenerated = false

instance (site : Site) : Decidable site.Named := inferInstanceAs (Decidable (_ ∧ _))

end Site

def WrittenIn (places : List Place) (clause : Nat) (tag : Tag) : Prop :=
  ∃ p ∈ places, p.clause = clause ∧ p.site.tag = some tag

def untagged (places : List Place) : Nat := places.countP (·.site.tag.isNone)

structure Fits [PatternReader] (before : List Place) (p : Place) : Prop where
  legal : p.site.Legal
  fresh : ∀ tag ∈ p.site.tag, ∀ i, ¬ WrittenIn before i tag
  earlier : ∀ tag ∈ p.site.refs, ∃ i, WrittenIn before i tag
  unmixed : ∀ own ∈ p.site.refs, ∀ other ∈ p.site.refs, ∀ i,
    WrittenIn before p.clause own → WrittenIn before i other → i = p.clause

/-- A scope that holds the tags written at some places and a number for each place without one. -/
structure Tracks (s : Scope) (before : List Place) : Prop where
  named : ∀ tag i, tag.isGenerated = false →
    (WrittenIn before i tag ↔ ∃ b, s.find? tag = some b ∧ b.clause = i)
  generated : ∀ n, s.find? (.generated n) ≠ none → n.toNat < s.next.toNat
  next : s.next.toNat = untagged before

variable {index : Nat} {template : Template} {s s' : Scope} {site : Site} {a : Atom} {tag : Tag}
  {before : List Place} {t : PropertyTest} {kind : AtomKind}

def Scope.Sees (s : Scope) (index : Nat) (tags : List Tag) : Prop :=
  ∃ bs : List Binding, tags.map s.find? = bs.map some ∧
    ((∀ b ∈ bs, b.clause ≠ index) ∨ ∀ b ∈ bs, b.clause = index)

lemma Scope.sees_nil : s.Sees index [] := ⟨[], rfl, .inl (by simp)⟩

lemma Scope.Sees.exists_references {path : Path} {op : Operator} {tags : List Tag}
    (h : s.Sees index tags) (hl : tags.length = op.arity) :
    ∃ kind, s.references index path op tags = .ok kind := by
  obtain ⟨bs, hbs, hc | hc⟩ := h
  · exact ⟨_, references_eq_ok.mpr ⟨hl, bs, hbs, .inl ⟨hc, rfl⟩⟩⟩
  · exact ⟨_, references_eq_ok.mpr ⟨hl, bs, hbs, .inr ⟨hc, rfl⟩⟩⟩

section Kinds

variable [PatternReader]

lemma legal_of_literal {path : Path} {op : Operator} {operand : Operand} {written : Option Tag}
    (h : Literal path op operand kind) : PropertyTest.Legal ⟨path, written, some op, operand⟩ := by
  cases h with
  | compare v hc => cases op <;> cases hc <;> simp [PropertyTest.Legal]
  | resembles hm => simp [PropertyTest.Legal, hm]
  | _ => simp [PropertyTest.Legal]

lemma PropertyTest.Makes.legal (h : Makes index s t kind) : t.Legal := by
  cases h with
  | bind path tag => trivial
  | literal tag hl => exact legal_of_literal hl
  | refs tag hne hr => exact ⟨hne, (Scope.references_eq_ok.mp hr).1⟩
  | @nested path op tag child hne ha =>
    refine ⟨hne, ?_⟩
    rintro rfl
    cases ha

lemma PropertyTest.Makes.sees (h : Makes index s t kind) :
    s.Sees index t.operand.references := by
  cases h with
  | bind path tag => exact Scope.sees_nil
  | literal tag hl => cases hl <;> exact Scope.sees_nil
  | refs tag hne hr =>
    obtain ⟨_, bs, hbs, ⟨hc, _⟩ | ⟨hc, _⟩⟩ := Scope.references_eq_ok.mp hr
    · exact ⟨bs, hbs, .inl hc⟩
    · exact ⟨bs, hbs, .inr hc⟩
  | nested path tag child => exact Scope.sees_nil

lemma PropertyTest.Legal.exists_makes (h : t.Legal) (hs : s.Sees index t.operand.references) :
    ∃ kind, Makes index s t kind := by
  obtain ⟨path, tag, op, operand⟩ := t
  cases op with
  | none =>
    cases operand with
    | none => exact ⟨_, .bind path tag⟩
    | _ => exact h.elim
  | some op =>
    cases operand with
    | none => exact h.elim
    | value v =>
      cases op with
      | eq => exact ⟨_, .literal tag (.equals v)⟩
      | notEq => exact ⟨_, .literal tag (.notEquals v)⟩
      | gt | gte | lt | lte => exact ⟨_, .literal tag (.compare v rfl)⟩
      | _ => simp [Legal] at h
    | range low high =>
      obtain rfl : op = .between := h
      exact ⟨_, .literal tag (.between low high)⟩
    | pattern source =>
      obtain ⟨rfl, m, hm⟩ : op = .matching ∧ ∃ m, PatternReader.read source = .ok m := h
      exact ⟨_, .literal tag (.resembles hm)⟩
    | type name =>
      obtain rfl : op = .isA := h
      exact ⟨_, .literal tag (.isA name)⟩
    | refs tags =>
      obtain ⟨hne, hl⟩ : op ≠ .ne ∧ tags.length = op.arity := h
      obtain ⟨kind, hk⟩ := hs.exists_references hl
      exact ⟨kind, .refs tag hne hk⟩
    | nested child =>
      obtain ⟨hne, hb⟩ : op ≠ .ne ∧ op ≠ .between := h
      have ha : op.arity = 1 := by
        cases op <;> first | rfl | exact (hb rfl).elim
      exact ⟨_, .nested path tag child hne ha⟩

lemma Site.exists_kindIn :
    (∃ kind, site.kindIn index s = .ok kind) ↔ site.Legal ∧ s.Sees index site.refs := by
  cases site with
  | head tag => exact ⟨fun _ => ⟨trivial, Scope.sees_nil⟩, fun _ => ⟨_, rfl⟩⟩
  | test t =>
    cases t with
    | function f => exact ⟨fun _ => ⟨trivial, Scope.sees_nil⟩, fun _ => ⟨_, rfl⟩⟩
    | property t =>
      constructor
      · rintro ⟨kind, hk⟩
        have hm := PropertyTest.makes_of_kindIn hk
        exact ⟨hm.legal, hm.sees⟩
      · rintro ⟨hl, hs⟩
        obtain ⟨kind, hm⟩ := PropertyTest.Legal.exists_makes hl hs
        exact ⟨kind, PropertyTest.kindIn_of_makes hm⟩

end Kinds

lemma writtenIn_concat {p : Place} {i : Nat} :
    WrittenIn (before ++ [p]) i tag ↔
      WrittenIn before i tag ∨ p.clause = i ∧ p.site.tag = some tag := by
  simp [WrittenIn, or_and_right, exists_or]

lemma untagged_concat {p : Place} :
    untagged (before ++ [p]) = untagged before + if p.site.tag.isNone then 1 else 0 := by
  simp [untagged, List.countP_singleton]

namespace Tracks

lemma empty : Tracks .empty [] where
  named tag i _ := by simp [WrittenIn, Scope.find?, Scope.empty]
  generated n h := by simp [Scope.find?, Scope.empty] at h
  next := rfl

lemma unbound_iff (h : Tracks s before) (hn : tag.isGenerated = false) :
    s.find? tag = none ↔ ∀ i, ¬ WrittenIn before i tag := by
  cases hf : s.find? tag with
  | none => simp [h.named tag _ hn, hf]
  | some b => simp [h.named tag _ hn, hf]

lemma unbound_next (h : Tracks s before) : s.find? (.generated s.next) = none := by
  cases hf : s.find? (.generated s.next) with
  | none => rfl
  | some b => exact absurd (h.generated s.next (by simp [hf])) (Nat.lt_irrefl _)

lemma freshNumber?_eq (h : Tracks s before) (hroom : untagged before + 1 < UInt32.size) :
    s.freshNumber? = some s.next := by
  have hlimit : s.next ≠ Scope.numberLimit := by
    intro he
    have hv : s.next.toNat = UInt32.size - 1 := congrArg UInt32.toNat he
    have hnext := h.next
    omega
  have hfree : s.isBound (.generated s.next) = false := by
    rw [Scope.isBound, h.unbound_next, Option.isSome_none]
  rw [Scope.freshNumber?, Scope.firstFree, if_neg hlimit, if_neg (by simp [hfree])]

lemma supplies_none (h : Tracks s before) (hroom : untagged before + 1 < UInt32.size) {own : Tag}
    {n : UInt32} : s.Supplies none own n ↔ own = .generated s.next ∧ n = s.next + 1 := by
  simp [Scope.Supplies, h.freshNumber?_eq hroom]

lemma sees_iff (h : Tracks s before) {tags : List Tag}
    (hn : ∀ tag ∈ tags, tag.isGenerated = false) :
    s.Sees index tags ↔ (∀ tag ∈ tags, ∃ i, WrittenIn before i tag) ∧
      ∀ own ∈ tags, ∀ other ∈ tags, ∀ i,
        WrittenIn before index own → WrittenIn before i other → i = index := by
  constructor
  · rintro ⟨bs, hbs, hside⟩
    refine ⟨fun tag ht => ?_, fun own hown other hother i hw hw' => ?_⟩
    · obtain ⟨b, _, hf⟩ := Scope.found hbs ht
      exact ⟨b.clause, (h.named tag _ (hn tag ht)).mpr ⟨b, hf, rfl⟩⟩
    · obtain ⟨b, hb, hf⟩ := Scope.found hbs hown
      obtain ⟨b', hb', hf'⟩ := Scope.found hbs hother
      obtain ⟨_, he, hc⟩ := (h.named own _ (hn own hown)).mp hw
      obtain ⟨_, he', hc'⟩ := (h.named other _ (hn other hother)).mp hw'
      obtain rfl := Option.some.inj (hf.symm.trans he)
      obtain rfl := Option.some.inj (hf'.symm.trans he')
      rcases hside with hside | hside
      · exact (hside b hb hc).elim
      · exact hc'.symm.trans (hside b' hb')
  · rintro ⟨hearlier, hmix⟩
    obtain ⟨bs, hbs⟩ : ∃ bs : List Binding, tags.map s.find? = bs.map some := by
      apply Scope.exists_bindings
      intro tag ht
      obtain ⟨i, hi⟩ := hearlier tag ht
      obtain ⟨b, hf, _⟩ := (h.named tag i (hn tag ht)).mp hi
      exact ⟨b, hf⟩
    have hwritten : ∀ b ∈ bs, ∃ tag ∈ tags, WrittenIn before b.clause tag := by
      intro b hb
      obtain ⟨tag, ht, hf⟩ := Scope.finder hbs hb
      exact ⟨tag, ht, (h.named tag _ (hn tag ht)).mpr ⟨b, hf, rfl⟩⟩
    refine ⟨bs, hbs, ?_⟩
    by_cases hown : ∃ own ∈ tags, WrittenIn before index own
    · obtain ⟨own, ho, hw⟩ := hown
      right
      intro b hb
      obtain ⟨tag, ht, hw'⟩ := hwritten b hb
      exact hmix own ho tag ht _ hw hw'
    · left
      rintro b hb rfl
      exact hown (hwritten b hb)

lemma exists_supply (h : Tracks s before) {written : Option Tag}
    (hn : ∀ tag ∈ written, tag.isGenerated = false)
    (hroom : written = none → untagged before + 1 < UInt32.size) :
    (∃ own n, s.Supplies written own n ∧ s.find? own = none) ↔
      ∀ tag ∈ written, ∀ i, ¬ WrittenIn before i tag := by
  cases written with
  | none =>
    refine ⟨by simp, fun _ => ⟨_, _, (h.supplies_none (hroom rfl)).mpr ⟨rfl, rfl⟩, ?_⟩⟩
    exact h.unbound_next
  | some tag =>
    have hu := h.unbound_iff (hn tag rfl)
    constructor
    · rintro ⟨_, _, ⟨rfl, rfl⟩, hf⟩ _ ⟨⟩
      exact hu.mp hf
    · intro hw
      exact ⟨tag, s.next, ⟨rfl, rfl⟩, hu.mpr (hw tag rfl)⟩

lemma room (hroom : untagged (before ++ [⟨index, site⟩]) < UInt32.size) :
    site.tag = none → untagged before + 1 < UInt32.size := by
  intro ht
  simpa [untagged_concat, ht] using hroom

variable [PatternReader]

lemma exists_step (template : Template) (h : Tracks s before) (hn : site.Named)
    (hroom : untagged (before ++ [⟨index, site⟩]) < UInt32.size) :
    (∃ a s', Step index template s site a s') ↔ Fits before ⟨index, site⟩ := by
  constructor
  · rintro ⟨a, s', hs⟩
    obtain ⟨hl, hsees⟩ := Site.exists_kindIn.mp ⟨_, hs.kind⟩
    obtain ⟨hearlier, hmix⟩ := (h.sees_iff hn.2).mp hsees
    exact ⟨hl, (h.exists_supply hn.1 (room hroom)).mp ⟨_, _, hs.tag, hs.unbound⟩, hearlier, hmix⟩
  · rintro ⟨hl, hfresh, hearlier, hmix⟩
    obtain ⟨kind, hk⟩ := Site.exists_kindIn.mpr ⟨hl, (h.sees_iff hn.2).mpr ⟨hearlier, hmix⟩⟩
    obtain ⟨own, n, hs, hf⟩ := (h.exists_supply hn.1 (room hroom)).mpr hfresh
    exact ⟨_, _, step_iff.mpr ⟨kind, own, n, hk, hs, hf, rfl, rfl⟩⟩

lemma room_of_step (h : Tracks s before) (hs : Step index template s site a s') :
    untagged (before ++ [⟨index, site⟩]) < UInt32.size := by
  have hnext := h.next
  have hlt : s.next.toNat < UInt32.size := s.next.toNat_lt
  have htag := hs.tag
  rw [untagged_concat]
  cases ht : site.tag with
  | some written => simpa [← hnext] using hlt
  | none =>
    rw [ht] at htag
    obtain ⟨n, hn, _⟩ := htag
    have hlimit : s.next ≠ Scope.numberLimit := by
      intro he
      rw [Scope.freshNumber?, Scope.firstFree, if_pos he] at hn
      cases hn
    have hvalue : s.next.toNat ≠ UInt32.size - 1 := fun he => hlimit (UInt32.toNat_inj.mp he)
    simp only [Option.isNone_none, if_true]
    omega

lemma tag_cases (h : Tracks s before) (hs : Step index template s site a s') :
    site.tag = some a.tag ∧ s'.next = s.next ∨
      site.tag = none ∧ a.tag = .generated s.next ∧ s'.next.toNat = s.next.toNat + 1 := by
  have htag := hs.tag
  cases ht : site.tag with
  | some written =>
    rw [ht] at htag
    obtain ⟨hw, hnext⟩ := htag
    exact .inl ⟨congrArg some hw.symm, hnext⟩
  | none =>
    have hfit := room (h.room_of_step hs) ht
    rw [ht, h.supplies_none hfit] at htag
    refine .inr ⟨rfl, htag.1, ?_⟩
    have hnext := h.next
    rw [htag.2, UInt32.toNat_add, UInt32.toNat_one]
    exact Nat.mod_eq_of_lt (by rwa [hnext])

lemma step (h : Tracks s before) (hn : ∀ tag ∈ site.tag, tag.isGenerated = false)
    (hs : Step index template s site a s') : Tracks s' (before ++ [⟨index, site⟩]) := by
  -- A written tag is never a number and a number never a written tag, so that each of the two
  -- cases disturbs only its own half of the invariant.
  obtain ⟨ht, hnext⟩ | ⟨ht, hgen, hnext⟩ := h.tag_cases hs
  · refine ⟨fun tag i hg => ?_, fun n hb => ?_, ?_⟩
    · rw [writtenIn_concat, h.named tag i hg, ht]
      by_cases he : tag = a.tag
      · subst he
        simp [hs.unbound, hs.find?_self]
      · simp [hs.find?_of_ne he, Ne.symm he]
    · have hne : Tag.generated n ≠ a.tag := by
        intro he
        have hg := hn _ ht
        rw [← he] at hg
        cases hg
      rw [hs.find?_of_ne hne] at hb
      rw [hnext]
      exact h.generated n hb
    · rw [hnext, untagged_concat, ht, h.next]
      rfl
  · refine ⟨fun tag i hg => ?_, fun n hb => ?_, ?_⟩
    · have hne : tag ≠ a.tag := by
        rintro rfl
        rw [hgen] at hg
        cases hg
      rw [writtenIn_concat, h.named tag i hg, hs.find?_of_ne hne, ht]
      simp
    · by_cases he : n = s.next
      · rw [hnext, he]
        omega
      · have hne : Tag.generated n ≠ a.tag := by
          rw [hgen]
          simpa using he
        rw [hs.find?_of_ne hne] at hb
        have hlt := h.generated n hb
        omega
    · rw [hnext, untagged_concat, ht, h.next]
      rfl

end Tracks

end Antecedent
