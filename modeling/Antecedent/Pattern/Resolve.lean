import Antecedent.Clause.Shape
import Antecedent.Pattern.Basic
import Antecedent.Scope

/-! A clause resolved against the tags bound so far: its head and one atom for each test. -/

namespace Antecedent

def Shape.template (shape : Shape) : Template :=
  match shape.target with
  | some type => ⟨.type type, if shape.subtype then .subtype else .exact⟩
  | none => .universal

def Shape.kind (shape : Shape) : PatternKind :=
  PatternKind.select shape.negated (shape.template.mode == .subtype) shape.collected

namespace Scope

def findAll (s : Scope) (path : Path) : List Tag → Except ClauseFault (List Binding)
  | [] => .ok []
  | tag :: tags =>
    match s.find? tag with
    | none => .error (.unresolvable path.render tag)
    | some b => (s.findAll path tags).map (b :: ·)

/-- References stay inside the clause at `index` or point to other clauses, never both. -/
def references (s : Scope) (index : Nat) (path : Path) (op : Operator) (tags : List Tag) :
    Except ClauseFault AtomKind :=
  if tags.length ≠ op.arity then .error (.wrongArity path op tags.length)
  else
    (s.findAll path tags).bind fun bindings =>
      let own := bindings.filter (·.clause == index)
      if own.isEmpty then .ok (.reference path op tags)
      else if own.length = bindings.length then .ok (.selfReference path op (own.map (·.path)))
      else .error (.mixedScope path.render op tags)

end Scope

variable [PatternReader]

-- Neither tags nor nested tests are involved here.
def literalKind (path : Path) (op : Operator) (operand : Operand) : Except ClauseFault AtomKind :=
  match op, operand with
  | op, .none => .error (.noOperand path op)
  | .eq, .value v => .ok (.equals path v)
  | .notEq, .value v => .ok (.notEquals path v)
  | op, .value v =>
    match op.comparison? with
    | some c => .ok (.compare path c v)
    | none => .error (.notSingleValue path op)
  | .between, .range low high => .ok (.between path low high)
  | .matching, .pattern source =>
    match PatternReader.read source with
    | .ok m => .ok (.resembles path m)
    | .error detail => .error (.invalidPattern source detail)
  | .isA, .type name => .ok (.isA path name)
  | op, operand => .error (.wrongOperand path op operand)

def PropertyTest.resolve (index : Nat) (template : Template) :
    PropertyTest → Scoped (List Atom × Tag)
  | ⟨path, tag, op, operand⟩ => do
    let (inner, kind) ←
      match op, operand with
      | some .ne, _ => Scoped.refuse (.disallowedOperator path.render .ne)
      | none, .none => pure ([], AtomKind.bind path)
      | none, operand => Scoped.refuse (.noOperator path operand)
      | some op, .refs tags => do
        let kind ← Scoped.check fun s => s.references index path op tags
        pure ([], kind)
      | some op, .nested child => do
        let (inner, childTag) ← child.resolve index template
        let kind ← Scoped.check fun s => s.references index path op [childTag]
        pure (inner, kind)
      | some op, operand => do
        let kind ← Scoped.check fun _ => literalKind path op operand
        pure ([], kind)
    let own ← Scoped.tagOrFresh tag
    Scoped.bindTag own ⟨index, path⟩
    pure (inner ++ [⟨own, template, kind⟩], own)

def FunctionTest.resolve (index : Nat) (template : Template) (f : FunctionTest) :
    Scoped (List Atom) := do
  let own ← Scoped.freshTag
  Scoped.bindTag own ⟨index, .root⟩
  pure [⟨own, template, .function f.args f.predicate⟩]

def Test.resolve (index : Nat) (template : Template) : Test → Scoped (List Atom)
  | .property t => do
    let (atoms, _) ← t.resolve index template
    pure atoms
  | .function f => f.resolve index template

def resolveTests (index : Nat) (template : Template) : List Test → Scoped (List Atom)
  | [] => pure []
  | t :: ts => do
    let atoms ← t.resolve index template
    let more ← resolveTests index template ts
    pure (atoms ++ more)

def Clause.resolve (index : Nat) (c : Clause) : Scoped ClausePattern := do
  let shape ← Scoped.check fun _ => c.shape
  let own ← Scoped.tagOrFresh shape.tag
  Scoped.bindTag own ⟨index, .root⟩
  -- The tests come second and may refer to the head.
  let atoms ← resolveTests index shape.template shape.tests
  pure ⟨index, shape.kind, ⟨own, shape.template, .head⟩, atoms⟩

end Antecedent
