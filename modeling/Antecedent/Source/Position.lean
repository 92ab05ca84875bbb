import Antecedent.Source.Reader

namespace Antecedent.Source

structure Position where
  line : Nat
  column : Nat
  deriving DecidableEq

namespace Position

def start : Position := ⟨1, 1⟩

def advance (p : Position) (c : Char) : Position :=
  if c = '\n' then ⟨p.line + 1, 1⟩ else ⟨p.line, p.column + 1⟩

def after (text : List Char) : Position := text.foldl advance start

end Position

structure SyntaxError where
  position : Position
  expected : List Expectation
  deriving DecidableEq

namespace SyntaxError

def ofFailure (text : List Char) (f : Failure) : SyntaxError :=
  ⟨Position.after (text.take (text.length - f.rest.length)), f.expected⟩

def detail (e : SyntaxError) : String :=
  if e.expected.isEmpty then "invalid syntax"
  else "expected " ++ ", ".intercalate (e.expected.map Expectation.render)

def message (e : SyntaxError) : String :=
  "parse error at line " ++ toString e.position.line ++ ", column " ++
    toString e.position.column ++ ": " ++ e.detail

end SyntaxError

end Antecedent.Source
