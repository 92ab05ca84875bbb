import Antecedent.Names
import Antecedent.Operator
import Antecedent.Value

namespace Antecedent

structure Fact where
  typeName : String
  property? : List String → Option Value

/-- A test supplied by the host program. Two predicates are the same only if they were made as one,
which the number records. -/
structure Predicate where
  id : Nat
  holds : Fact → List Value → Bool

instance : BEq Predicate where
  beq p q := p.id == q.id

mutual
inductive Operand where
  | none
  | value (v : Value)
  | range (low high : Value)
  | pattern (source : String)
  | type (name : String)
  | refs (tags : List Tag)
  | nested (test : PropertyTest)

structure PropertyTest where
  path : Path
  tag : Option Tag
  op : Option Operator
  operand : Operand
end

structure FunctionTest where
  args : List Value
  predicate : Predicate
  deriving BEq

inductive Test where
  | property (test : PropertyTest)
  | function (test : FunctionTest)

mutual
def Operand.beq : Operand → Operand → Bool
  | .none, .none => true
  | .value a, .value b => a == b
  | .range a b, .range c d => a == c && b == d
  | .pattern a, .pattern b => a == b
  | .type a, .type b => a == b
  | .refs a, .refs b => a == b
  | .nested a, .nested b => a.beq b
  | _, _ => false

def PropertyTest.beq : PropertyTest → PropertyTest → Bool
  | ⟨path, tag, op, operand⟩, ⟨path', tag', op', operand'⟩ =>
    path == path' && tag == tag' && op == op' && operand.beq operand'
end

instance : BEq Operand := ⟨Operand.beq⟩
instance : BEq PropertyTest := ⟨PropertyTest.beq⟩

def Test.beq : Test → Test → Bool
  | .property a, .property b => a == b
  | .function a, .function b => a == b
  | _, _ => false

instance : BEq Test := ⟨Test.beq⟩

mutual
def Operand.render : Operand → String
  | .none => ""
  | .value v => v.render
  | .range low high => low.render ++ " and " ++ high.render
  | .pattern source => quoted source
  | .type name => name
  | .refs tags => " and ".intercalate (tags.map Tag.reference)
  | .nested test => "(" ++ test.render ++ ")"

def PropertyTest.render : PropertyTest → String
  | ⟨path, tag, op, operand⟩ =>
    path.render ++
      (match tag with
        | some t => " as " ++ t.render
        | Option.none => "") ++
      (match op with
        | some o => " " ++ o.render ++ " " ++ operand.render
        | Option.none => "")
end

def FunctionTest.render (f : FunctionTest) : String :=
  "fn(" ++ ", ".intercalate (f.args.map Value.render) ++ ")"

def Test.render : Test → String
  | .property t => t.render
  | .function f => f.render

end Antecedent
