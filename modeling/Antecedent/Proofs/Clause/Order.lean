import Antecedent.Proofs.Clause.Tokens

/-! The token rows that are in order, told by comparing tokens two at a time, and the first token of
any other row that is out of place. -/

namespace Antecedent

namespace Token

def isModifier : Token → Bool
  | .modifier _ => true
  | _ => false

def rank : Token → Nat
  | .modifier _ => 0
  | .target _ => 1
  | .tag _ => 2
  | .tests _ => 3

def Before (a b : Token) : Prop := a.rank < b.rank ∨ a.rank = 0 ∧ b.rank = 0

lemma Before.lt {a b : Token} (h : a.Before b) (ha : a.rank ≠ 0) : a.rank < b.rank :=
  h.resolve_right fun hzero => ha hzero.1

end Token

def InOrder (tokens : List Token) : Prop :=
  ∃ modifiers target tag block, tokens = inOrder modifiers target tag block

variable {modifiers : List Modifier} {target : Option String} {tag : Option Tag}
  {block : Option (List Test)} {tokens read rest : List Token} {extra : Token} {shape : Shape}

lemma forall_mem_inOrder {P : Token → Prop} :
    (∀ t ∈ inOrder modifiers target tag block, P t) ↔
      (∀ m ∈ modifiers, P (.modifier m)) ∧ (∀ type ∈ target, P (.target type)) ∧
        (∀ t ∈ tag, P (.tag t)) ∧ ∀ ts ∈ block, P (.tests ts) := by
  simp only [inOrder, List.forall_mem_append, List.forall_mem_map, Option.mem_toList,
    Option.mem_def]

lemma pairwise_inOrder : (inOrder modifiers target tag block).Pairwise Token.Before := by
  have hmodifiers : (modifiers.map Token.modifier).Pairwise Token.Before := by
    apply List.pairwise_map.mpr
    exact List.pairwise_of_forall fun _ _ => .inr ⟨rfl, rfl⟩
  rw [inOrder, List.pairwise_append]
  refine ⟨hmodifiers, ?_, ?_⟩
  all_goals cases target <;> cases tag <;> cases block <;> simp [Token.Before, Token.rank]

lemma inOrder_of_lt_rank {n : Nat} (h : ∀ t ∈ inOrder modifiers target tag block, n < t.rank) :
    modifiers = [] ∧ (1 ≤ n → target = none) ∧ (2 ≤ n → tag = none) ∧ (3 ≤ n → block = none) := by
  obtain ⟨hm, ht, hg, hb⟩ := forall_mem_inOrder.mp h
  refine ⟨?_, fun hn => ?_, fun hn => ?_, fun hn => ?_⟩
  · apply List.eq_nil_iff_forall_not_mem.mpr
    intro m hmem
    exact absurd (hm m hmem) (Nat.not_lt_zero n)
  · apply Option.eq_none_iff_forall_not_mem.mpr
    intro type hmem
    exact absurd (ht type hmem) (Nat.not_lt.mpr hn)
  · apply Option.eq_none_iff_forall_not_mem.mpr
    intro t hmem
    exact absurd (hg t hmem) (Nat.not_lt.mpr hn)
  · apply Option.eq_none_iff_forall_not_mem.mpr
    intro ts hmem
    exact absurd (hb ts hmem) (Nat.not_lt.mpr hn)

lemma inOrder_of_before (h : ∀ t ∈ inOrder modifiers target tag block, t.Before extra) :
    block = none ∧ (extra.rank ≤ 2 → tag = none) ∧ (extra.rank ≤ 1 → target = none) := by
  obtain ⟨-, ht, hg, hb⟩ := forall_mem_inOrder.mp h
  refine ⟨?_, fun hn => ?_, fun hn => ?_⟩
  · apply Option.eq_none_iff_forall_not_mem.mpr
    intro ts hmem
    have hlt : 3 < extra.rank := (hb ts hmem).lt (Nat.succ_ne_zero 2)
    cases extra <;> simp [Token.rank] at hlt
  · apply Option.eq_none_iff_forall_not_mem.mpr
    intro t hmem
    exact absurd ((hg t hmem).lt (Nat.succ_ne_zero 1)) (Nat.not_lt.mpr hn)
  · apply Option.eq_none_iff_forall_not_mem.mpr
    intro type hmem
    exact absurd ((ht type hmem).lt Nat.one_ne_zero) (Nat.not_lt.mpr hn)

lemma inOrder_iff : InOrder tokens ↔ tokens.Pairwise Token.Before := by
  constructor
  · rintro ⟨modifiers, target, tag, block, rfl⟩
    exact pairwise_inOrder
  · intro h
    induction tokens with
    | nil => exact ⟨[], none, none, none, rfl⟩
    | cons t tokens ih =>
      obtain ⟨hfirst, hrest⟩ := List.pairwise_cons.mp h
      obtain ⟨modifiers, target, tag, block, rfl⟩ := ih hrest
      cases t with
      | modifier m => exact ⟨m :: modifiers, target, tag, block, rfl⟩
      | target type =>
        obtain ⟨rfl, ht, -, -⟩ := inOrder_of_lt_rank fun u hu => (hfirst u hu).lt Nat.one_ne_zero
        obtain rfl := ht (Nat.le_refl 1)
        exact ⟨[], some type, tag, block, rfl⟩
      | tag t =>
        obtain ⟨rfl, ht, hg, -⟩ := inOrder_of_lt_rank fun u hu => (hfirst u hu).lt (Nat.succ_ne_zero 1)
        obtain rfl := ht (Nat.le_succ 1)
        obtain rfl := hg (Nat.le_refl 2)
        exact ⟨[], none, some t, block, rfl⟩
      | tests ts =>
        obtain ⟨rfl, ht, hg, hb⟩ := inOrder_of_lt_rank fun u hu => (hfirst u hu).lt (Nat.succ_ne_zero 2)
        obtain rfl := ht (Nat.le_add_left 1 2)
        obtain rfl := hg (Nat.le_succ 2)
        obtain rfl := hb (Nat.le_refl 3)
        exact ⟨[], none, none, some ts, rfl⟩

lemma InOrder.of_prefix (h : InOrder tokens) (hp : read <+: tokens) : InOrder read :=
  inOrder_iff.mpr ((inOrder_iff.mp h).sublist hp.sublist)

/-- A row in order that the next token cannot extend is the longest one. -/
lemma InOrder.prefix_of_stuck (hstuck : ¬ InOrder (read ++ [extra])) {p : List Token}
    (h : InOrder p) (hp : p <+: read ++ extra :: rest) : p <+: read := by
  rcases List.prefix_or_prefix_of_prefix hp (List.prefix_append read _) with hle | hge
  · exact hle
  · obtain ⟨more, rfl⟩ := hge
    cases more with
    | nil => exact ⟨[], by simp⟩
    | cons t more =>
      obtain ⟨rfl, -⟩ := List.cons_prefix_cons.mp ((List.prefix_append_right_inj read).mp hp)
      exact (hstuck (h.of_prefix ⟨more, by simp⟩)).elim

namespace Shape

lemma map_leadingModifiers (tokens : List Token) :
    (leadingModifiers tokens).map .modifier = tokens.takeWhile Token.isModifier := by
  induction tokens with
  | nil => rfl
  | cons t tokens ih =>
    cases t with
    | modifier m => simp [leadingModifiers, List.takeWhile_cons, Token.isModifier, ih]
    | _ => simp [leadingModifiers, Token.isModifier]

lemma existing_mem_leadingModifiers :
    .existing ∈ leadingModifiers tokens ↔
      .modifier .existing ∈ tokens.takeWhile Token.isModifier := by
  simp [← map_leadingModifiers]

lemma afterModifiers_ne (m : Modifier) : afterModifiers tokens ≠ .modifier m :: rest := by
  induction tokens with
  | nil => simp [afterModifiers]
  | cons t tokens ih =>
    cases t with
    | modifier m => simpa [afterModifiers] using ih
    | _ => simp [afterModifiers]

lemma takeTarget_none (h : takeTarget tokens = (none, rest)) :
    tokens = rest ∧ ∀ type more, rest ≠ .target type :: more := by
  unfold takeTarget at h
  split at h
  · cases h
  · next hno =>
    cases h
    exact ⟨rfl, hno⟩

lemma takeTag_none (h : takeTag tokens = (none, rest)) :
    tokens = rest ∧ ∀ t more, rest ≠ .tag t :: more := by
  unfold takeTag at h
  split at h
  · cases h
  · next hno =>
    cases h
    exact ⟨rfl, hno⟩

lemma not_before_extra {afterTarget afterTag : List Token}
    (htarget : takeTarget (afterModifiers tokens) = (target, afterTarget))
    (htag : takeTag afterTarget = (tag, afterTag))
    (hblock : afterTag = block.toList.map .tests ++ extra :: rest)
    (hrest : (takeTests afterTag).2 = extra :: rest) :
    ¬ ∀ t ∈ inOrder modifiers target tag block, t.Before extra := by
  intro h
  obtain ⟨rfl, hnoTag, hnoTarget⟩ := inOrder_of_before h
  obtain rfl : afterTag = extra :: rest := hblock
  cases extra with
  | tests ts => simp [takeTests] at hrest
  | tag t =>
    obtain rfl := hnoTag (Nat.le_refl 2)
    exact (takeTag_none htag).2 t rest rfl
  | target type =>
    obtain rfl := hnoTag (Nat.le_succ 1)
    obtain rfl := hnoTarget (Nat.le_refl 1)
    obtain ⟨rfl, -⟩ := takeTag_none htag
    exact (takeTarget_none htarget).2 type rest rfl
  | modifier m =>
    obtain rfl := hnoTag (Nat.zero_le 2)
    obtain rfl := hnoTarget (Nat.zero_le 1)
    obtain ⟨rfl, -⟩ := takeTag_none htag
    exact afterModifiers_ne m (takeTarget_none htarget).1

lemma take_before (h : tokens = read ++ rest) : tokens.take (tokens.length - rest.length) = read := by
  simp [h]

lemma ofTokens_cases (h : .existing ∉ leadingModifiers tokens) :
    (∃ shape, ofTokens tokens = .ok shape) ∨
      ∃ read extra rest, tokens = read ++ extra :: rest ∧ InOrder read ∧
        ¬ InOrder (read ++ [extra]) ∧
        ofTokens tokens = .error (.unexpected extra read.getLast?) := by
  rcases htarget : takeTarget (afterModifiers tokens) with ⟨target, afterTarget⟩
  rcases htag : takeTag afterTarget with ⟨tag, afterTag⟩
  rcases htests : takeTests afterTag with ⟨tests, left⟩
  obtain ⟨block, hblock, -⟩ := split_tests afterTag
  rw [htests] at hblock
  have hsplit : tokens = inOrder (leadingModifiers tokens) target tag block ++ left := by
    have hfirst := split_modifiers tokens
    have hsecond := split_target (afterModifiers tokens)
    have hthird := split_tag afterTarget
    rw [htarget] at hsecond
    rw [htag] at hthird
    rw [inOrder, List.append_assoc, List.append_assoc, List.append_assoc, ← hblock, ← hthird,
      ← hsecond, ← hfirst]
  simp only [ofTokens, if_neg h, htarget, htag, htests]
  cases left with
  | nil => exact .inl ⟨_, rfl⟩
  | cons extra rest =>
    refine .inr ⟨inOrder (leadingModifiers tokens) target tag block, extra, rest, hsplit,
      ⟨_, _, _, _, rfl⟩, ?_, ?_⟩
    · intro ho
      have hpairs := (List.pairwise_append.mp (inOrder_iff.mp ho)).2.2
      have hbefore : ∀ t ∈ inOrder (leadingModifiers tokens) target tag block, t.Before extra :=
        fun t ht => hpairs t ht extra (List.mem_singleton.mpr rfl)
      exact not_before_extra htarget htag hblock (congrArg Prod.snd htests) hbefore
    · rw [take_before hsplit]

structure Describes (shape : Shape) (tokens : List Token) : Prop where
  negated : shape.negated = true ↔ .modifier .negated ∈ tokens
  subtype : shape.subtype = true ↔ .modifier .subtyped ∈ tokens
  collected : shape.collected = true ↔ .modifier .collected ∈ tokens
  parts : ∃ modifiers block, tokens = inOrder modifiers shape.target shape.tag block ∧
    shape.tests = block.getD []

lemma describes_of_ofTokens (h : ofTokens tokens = .ok shape) : shape.Describes tokens := by
  obtain ⟨modifiers, block, hm, ht, hb⟩ := inOrder_of_ofTokens h
  rw [ht, ofTokens_inOrder hm] at h
  refine ⟨?_, ?_, ?_, modifiers, block, ht, hb⟩
  all_goals
    rw [ht, mem_inOrder.1, ← Except.ok.inj h]
    exact List.contains_iff_mem

lemma ofTokens_of_describes (hm : .existing ∉ leadingModifiers tokens)
    (h : shape.Describes tokens) : ofTokens tokens = .ok shape := by
  obtain ⟨hnegated, hsubtype, hcollected, modifiers, block, ht, hb⟩ := h
  rw [ht, mem_inOrder.1, ← List.contains_iff_mem, ← Bool.eq_iff_iff] at hnegated hsubtype hcollected
  rw [ht, (modifiers_inOrder ..).1] at hm
  rw [ht, ofTokens_inOrder hm, ← hnegated, ← hsubtype, ← hcollected, ← hb]

lemma Describes.inOrder (h : shape.Describes tokens) : InOrder tokens := by
  obtain ⟨modifiers, block, ht, -⟩ := h.parts
  exact ⟨modifiers, _, _, block, ht⟩

lemma existing_of_unsupported {quantifier : String}
    (h : ofTokens tokens = .error (.unsupportedQuantifier quantifier)) :
    .existing ∈ leadingModifiers tokens := by
  apply Decidable.byContradiction
  intro hm
  rcases ofTokens_cases hm with ⟨shape, ho⟩ | ⟨_, _, _, _, _, _, ho⟩
  · rw [ho] at h
    cases h
  · rw [ho] at h
    cases h

/-- A quantifier that comes behind other tokens is a token out of place like any other. -/
theorem ofTokens_trichotomy (tokens : List Token) :
    ((∃ quantifier, ofTokens tokens = .error (.unsupportedQuantifier quantifier)) ↔
      .modifier .existing ∈ tokens.takeWhile Token.isModifier) ∧
    (.modifier .existing ∉ tokens.takeWhile Token.isModifier →
      ((∃ shape, ofTokens tokens = .ok shape) ↔ InOrder tokens) ∧
      (∀ shape, ofTokens tokens = .ok shape ↔ shape.Describes tokens) ∧
      (¬ InOrder tokens → ∃ read extra rest, tokens = read ++ extra :: rest ∧ InOrder read ∧
        (∀ p, p <+: tokens → InOrder p → p <+: read) ∧
        ofTokens tokens = .error (.unexpected extra read.getLast?))) := by
  rw [← existing_mem_leadingModifiers]
  constructor
  · constructor
    · rintro ⟨quantifier, h⟩
      exact existing_of_unsupported h
    · intro hm
      exact ⟨_, if_pos hm⟩
  · intro hm
    refine ⟨⟨?_, ?_⟩, fun shape => ⟨describes_of_ofTokens, ofTokens_of_describes hm⟩, ?_⟩
    · rintro ⟨shape, h⟩
      exact (describes_of_ofTokens h).inOrder
    · rintro ⟨modifiers, target, tag, block, rfl⟩
      rw [(modifiers_inOrder ..).1] at hm
      exact ⟨_, ofTokens_inOrder hm target tag block⟩
    · intro ho
      rcases ofTokens_cases hm with ⟨shape, h⟩ | ⟨read, extra, rest, rfl, hread, hstuck, h⟩
      · exact (ho (describes_of_ofTokens h).inOrder).elim
      · exact ⟨read, extra, rest, rfl, hread, fun p hp hin => hin.prefix_of_stuck hstuck hp, h⟩

example : ofTokens [.modifier .negated, .tag (.named "q"), .modifier .existing, .tests []] =
    .error (.invalidSyntax "unexpected modifier 'exists' after tag ':q'") := rfl

end Shape

end Antecedent
