import Antecedent.Proofs.Scope.Steps
import Mathlib.Logic.Function.Basic

namespace Antecedent

def Tag.rename (f : String → String) : Tag → Tag
  | .named name => .named (f name)
  | .generated number => .generated number

def Scope.rename (f : String → String) (s : Scope) : Scope :=
  ⟨s.bindings.map fun entry => (entry.1.rename f, entry.2), s.next⟩

def ClauseFault.SameKind (e e' : ClauseFault) : Prop := e'.kind = e.kind

inductive Agree {ε α β : Type} (E : ε → ε → Prop) (R : α → β → Prop) :
    Except ε α → Except ε β → Prop
  | ok {a : α} {b : β} : R a b → Agree E R (.ok a) (.ok b)
  | error {e e' : ε} : E e e' → Agree E R (.error e) (.error e')

namespace Agree

variable {ε α α' β β' : Type} {E : ε → ε → Prop} {R : α → β → Prop} {Q : α' → β' → Prop}
  {x : Except ε α} {y : Except ε β}

lemma bind {g : α → Except ε α'} {h : β → Except ε β'} (hx : Agree E R x y)
    (hgh : ∀ a b, R a b → Agree E Q (g a) (h b)) : Agree E Q (x.bind g) (y.bind h) := by
  cases hx with
  | ok hab => exact hgh _ _ hab
  | error he => exact .error he

lemma map {g : α → α'} {h : β → β'} (hx : Agree E R x y)
    (hgh : ∀ a b, R a b → Q (g a) (h b)) : Agree E Q (x.map g) (y.map h) := by
  cases hx with
  | ok hab => exact .ok (hgh _ _ hab)
  | error he => exact .error he

lemma exists_ok_iff (h : Agree E R x y) : (∃ a, x = .ok a) ↔ ∃ b, y = .ok b := by
  cases h with
  | ok _ => exact iff_of_true ⟨_, rfl⟩ ⟨_, rfl⟩
  | error _ =>
    constructor
    · rintro ⟨_, ⟨⟩⟩
    · rintro ⟨_, ⟨⟩⟩

lemma results {a : α} {b : β} (h : Agree E R (.ok a) (.ok b)) : R a b := by
  cases h with
  | ok hab => exact hab

lemma faults {e e' : ε} (h : Agree E R (.error e) (.error e')) : E e e' := by
  cases h with
  | error he => exact he

end Agree

variable {f : String → String} (hf : f.Injective)

section Scopes

include hf

lemma Tag.rename_injective : (Tag.rename f).Injective := by
  rintro (a | m) (b | n) h
  · exact congrArg Tag.named (hf (Tag.named.inj h))
  · cases h
  · cases h
  · exact h

namespace Scope

variable {s : Scope} {tag : Tag} {b : Binding} {path : Path}

lemma find?_rename : (s.rename f).find? (tag.rename f) = s.find? tag := by
  obtain ⟨bindings, next⟩ := s
  simp only [find?, rename]
  induction bindings with
  | nil => rfl
  | cons entry bindings ih =>
    rw [List.map_cons, List.lookup_cons, List.lookup_cons, ih]
    have hkey : (tag.rename f == entry.1.rename f) = (tag == entry.1) := by
      rw [Bool.eq_iff_iff, beq_iff_eq, beq_iff_eq, (Tag.rename_injective hf).eq_iff]
    rw [hkey]

lemma freshNumber?_rename : (s.rename f).freshNumber? = s.freshNumber? := by
  have htaken : (fun n => (s.rename f).isBound (.generated n)) =
      fun n => s.isBound (.generated n) := by
    funext n
    have hfind : (s.rename f).find? (Tag.rename f (.generated n)) = s.find? (.generated n) :=
      find?_rename hf
    exact congrArg Option.isSome hfind
  have hsize : (s.rename f).size = s.size := List.length_map _
  rw [freshNumber?, freshNumber?, htaken, hsize]
  rfl

lemma bind?_rename : (s.rename f).bind? (tag.rename f) b = (s.bind? tag b).map (rename f) := by
  rw [bind?, bind?, isBound, isBound, find?_rename hf]
  split
  · rfl
  · simp [rename]

lemma findAll_rename (tags : List Tag) :
    Agree ClauseFault.SameKind Eq (s.findAll path tags)
      ((s.rename f).findAll path (tags.map (Tag.rename f))) := by
  induction tags with
  | nil => exact .ok rfl
  | cons tag tags ih =>
    rw [List.map_cons, findAll, findAll, find?_rename hf]
    cases s.find? tag with
    | none => exact .error rfl
    | some b =>
      apply ih.map
      rintro bs _ rfl
      rfl

end Scope

end Scopes

namespace Scoped

variable {α α' β β' : Type} {R : α → β → Prop} {Q : α' → β' → Prop} {x : Scoped α} {y : Scoped β}

/-- Started in scopes that differ in the names only, the steps end in such scopes, and with results
or faults that correspond. -/
def Parallel (f : String → String) (R : α → β → Prop) (x : Scoped α) (y : Scoped β) : Prop :=
  ∀ s : Scope, Agree ClauseFault.SameKind R (x s).1 (y (s.rename f)).1 ∧
    (y (s.rename f)).2 = (x s).2.rename f

namespace Parallel

lemma bind {g : α → Scoped α'} {h : β → Scoped β'} (hx : Parallel f R x y)
    (hgh : ∀ a b, R a b → Parallel f Q (g a) (h b)) : Parallel f Q (x >>= g) (y >>= h) := by
  intro s
  obtain ⟨hagree, hscope⟩ := hx s
  change Agree _ Q (Scoped.bind x g s).1 (Scoped.bind y h (s.rename f)).1 ∧
    (Scoped.bind y h (s.rename f)).2 = (Scoped.bind x g s).2.rename f
  rw [Scoped.bind, Scoped.bind]
  rcases hxs : x s with ⟨rx, sx⟩
  rcases hys : y (s.rename f) with ⟨ry, sy⟩
  rw [hxs, hys] at hagree hscope
  obtain rfl : sy = sx.rename f := hscope
  cases hagree with
  | ok hab => exact hgh _ _ hab sx
  | error he => exact ⟨.error he, rfl⟩

lemma pure {a : α} {b : β} (h : R a b) :
    Parallel f R (Pure.pure a : Scoped α) (Pure.pure b : Scoped β) :=
  fun _ => ⟨.ok h, rfl⟩

lemma of_refused {e e' : ClauseFault} (hx : ∀ s, x s = (.error e, s))
    (hy : ∀ s, y s = (.error e', s)) (h : e.SameKind e') : Parallel f R x y := by
  intro s
  rw [hx, hy]
  exact ⟨.error h, rfl⟩

lemma check {g : Scope → Except ClauseFault α} {h : Scope → Except ClauseFault β}
    (hgh : ∀ s, Agree ClauseFault.SameKind R (g s) (h (s.rename f))) :
    Parallel f R (Scoped.check g) (Scoped.check h) :=
  fun s => ⟨hgh s, rfl⟩

include hf

lemma tagOrFresh (written : Option Tag) :
    Parallel f (fun own own' => own' = own.rename f) (Scoped.tagOrFresh written)
      (Scoped.tagOrFresh (written.map (Tag.rename f))) := by
  intro s
  cases written with
  | some tag => exact ⟨.ok rfl, rfl⟩
  | none =>
    simp only [Option.map_none, Scoped.tagOrFresh, freshTag, Scope.freshNumber?_rename hf]
    cases s.freshNumber? with
    | none => exact ⟨.error rfl, rfl⟩
    | some n => exact ⟨.ok rfl, rfl⟩

lemma bindTag (tag : Tag) (b : Binding) :
    Parallel f Eq (Scoped.bindTag tag b) (Scoped.bindTag (tag.rename f) b) := by
  intro s
  rw [Scoped.bindTag, Scoped.bindTag, Scope.bind?_rename hf]
  cases s.bind? tag b with
  | none => exact ⟨.error rfl, rfl⟩
  | some s' => exact ⟨.ok rfl, rfl⟩

lemma binding (written : Option Tag) {b : Binding} {next : Tag → Scoped α}
    {next' : Tag → Scoped β} (h : ∀ own, Parallel f R (next own) (next' (own.rename f))) :
    Parallel f R
      (do
        let own ← Scoped.tagOrFresh written
        Scoped.bindTag own b
        next own)
      (do
        let own ← Scoped.tagOrFresh (written.map (Tag.rename f))
        Scoped.bindTag own b
        next' own) := by
  apply (tagOrFresh hf written).bind
  rintro own _ rfl
  apply (bindTag hf own b).bind
  intro _ _ _
  exact h own

end Parallel

end Scoped

end Antecedent
