namespace Antecedent

inductive Target where
  | any
  | type (name : String)
  deriving DecidableEq

inductive MatchMode where
  | exact | subtype
  deriving DecidableEq

structure Template where
  target : Target
  mode : MatchMode
  deriving DecidableEq

def Target.render : Target → String
  | .any => "*"
  | .type name => name

def MatchMode.render : MatchMode → String
  | .exact => "exact"
  | .subtype => "subtype"

namespace Template

def universal : Template := ⟨.any, .subtype⟩

def isUniversal (t : Template) : Bool := t.target == .any

def render (t : Template) : String :=
  match t.mode with
  | .exact => t.target.render
  | .subtype => "is_a " ++ t.target.render

end Template

end Antecedent
