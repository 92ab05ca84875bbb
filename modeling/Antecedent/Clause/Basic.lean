import Antecedent.Test.Basic

namespace Antecedent

inductive Modifier where
  | negated | subtyped | collected | existing
  deriving DecidableEq

def Modifier.render : Modifier → String
  | .negated => "not"
  | .subtyped => "is_a"
  | .collected => "collect"
  | .existing => "exists"

inductive Token where
  | modifier (m : Modifier)
  | target (type : String)
  | tag (t : Tag)
  | tests (ts : List Test)
  deriving BEq

namespace Token

def render : Token → String
  | .modifier m => m.render
  | .target type => type
  | .tag t => t.render
  | .tests ts => "where \x7b " ++ ", ".intercalate (ts.map Test.render) ++ " \x7d"

def describe : Token → String
  | .modifier m => "modifier '" ++ m.render ++ "'"
  | .target type => "target type '" ++ type ++ "'"
  | .tag t => "tag '" ++ t.render ++ "'"
  | .tests _ => "where-block"

end Token

structure Clause where
  tokens : List Token
  deriving BEq

namespace Clause

def empty : Clause := ⟨[]⟩

def push (c : Clause) (t : Token) : Clause := ⟨c.tokens ++ [t]⟩

def ofTarget (type : String) : Clause := ⟨[.target type]⟩

def modifier (c : Clause) (m : Modifier) : Clause := c.push (.modifier m)

def target (c : Clause) (type : String) : Clause := c.push (.target type)

def tag (c : Clause) (t : Tag) : Clause := c.push (.tag t)

def tests (c : Clause) (ts : List Test) : Clause := c.push (.tests ts)

def test (c : Clause) (t : Test) : Clause :=
  -- A block at the end takes the test in.
  match c.tokens.getLast? with
  | some (.tests ts) => ⟨c.tokens.dropLast ++ [.tests (ts ++ [t])]⟩
  | _ => c.tests [t]

def render (c : Clause) : String :=
  if c.tokens.isEmpty then "*" else " ".intercalate (c.tokens.map Token.render)

end Clause

end Antecedent
