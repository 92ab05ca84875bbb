import Antecedent.Fault

/-! The tags that a rule variant has bound so far, and the numbering of further ones. -/

namespace Antecedent

structure Binding where
  clause : Nat
  path : Path
  deriving DecidableEq

structure Scope where
  bindings : List (Tag × Binding)
  next : UInt32
  deriving DecidableEq

namespace Scope

def empty : Scope := ⟨[], 0⟩

def find? (s : Scope) (tag : Tag) : Option Binding := s.bindings.lookup tag

def isBound (s : Scope) (tag : Tag) : Bool := (s.find? tag).isSome

def size (s : Scope) : Nat := s.bindings.length

def bind? (s : Scope) (tag : Tag) (b : Binding) : Option Scope :=
  if s.isBound tag then none else some { s with bindings := s.bindings ++ [(tag, b)] }

def numberLimit : UInt32 := 4294967295

def firstFree (taken : UInt32 → Bool) : (tries : Nat) → (n : UInt32) → Option UInt32
  | 0, _ => none
  | tries + 1, n =>
    -- The number after a number that is given out has to exist.
    if n = numberLimit then none
    else if taken n then firstFree taken tries (n + 1)
    else some n

def freshNumber? (s : Scope) : Option UInt32 :=
  -- Among one number more than there are bindings, one is free.
  firstFree (fun n => s.isBound (.generated n)) (s.size + 1) s.next

end Scope

/-- A step that may refuse the clause at hand. What it bound before it failed stays bound. -/
def Scoped (α : Type) : Type := Scope → Except ClauseFault α × Scope

namespace Scoped

variable {α β : Type}

def pure (a : α) : Scoped α := fun s => (.ok a, s)

def bind (x : Scoped α) (f : α → Scoped β) : Scoped β := fun s =>
  match x s with
  | (.ok a, s') => f a s'
  | (.error e, s') => (.error e, s')

instance : Monad Scoped where
  pure := pure
  bind := bind

def refuse (fault : ClauseFault) : Scoped α := fun s => (.error fault, s)

def check (f : Scope → Except ClauseFault α) : Scoped α := fun s => (f s, s)

def freshTag : Scoped Tag := fun s =>
  match s.freshNumber? with
  -- The numbers passed over on the way are not tried again.
  | some n => (.ok (.generated n), { s with next := n + 1 })
  | none => (.error .tagsExhausted, s)

def tagOrFresh : Option Tag → Scoped Tag
  | some tag => pure tag
  | none => freshTag

def bindTag (tag : Tag) (b : Binding) : Scoped Unit := fun s =>
  match s.bind? tag b with
  | some s' => (.ok (), s')
  | none => (.error (.duplicateTag tag), s)

end Scoped

end Antecedent
