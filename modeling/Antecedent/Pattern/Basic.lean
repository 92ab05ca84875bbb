import Antecedent.Pattern.Atom

namespace Antecedent

inductive PatternKind where
  | object | collect | inherits | notObject | notInherits
  deriving DecidableEq

namespace PatternKind

def select (negated subtype collected : Bool) : PatternKind :=
  match negated, subtype, collected with
  | true, true, _ => .notInherits
  | true, false, _ => .notObject
  | false, true, _ => .inherits
  | false, false, true => .collect
  | false, false, false => .object

def isNegated : PatternKind → Bool
  | .notObject => true
  | .notInherits => true
  | _ => false

def render : PatternKind → String
  | .object => "object"
  | .collect => "collect"
  | .inherits => "inherits"
  | .notObject => "not-object"
  | .notInherits => "not-inherits"

end PatternKind

structure ClausePattern where
  index : Nat
  kind : PatternKind
  head : Atom
  atoms : List Atom
  deriving BEq

def ClausePattern.render (p : ClausePattern) : String :=
  p.kind.render ++ "[" ++ "; ".intercalate ((p.head :: p.atoms).map Atom.render) ++ "]"

inductive Pattern where
  | clause (p : ClausePattern)
  | and (left right : Pattern)

namespace Pattern

def beq : Pattern → Pattern → Bool
  | .clause p, .clause q => p == q
  | .and a b, .and c d => a.beq c && b.beq d
  | _, _ => false

instance : BEq Pattern := ⟨beq⟩

def clauses : Pattern → List ClausePattern
  | .clause p => [p]
  | .and left right => left.clauses ++ right.clauses

def size : Pattern → Nat
  | .clause _ => 1
  | .and left right => left.size + right.size

def render : Pattern → String
  | .clause p => p.render
  | .and left right => "(" ++ left.render ++ " AND " ++ right.render ++ ")"

def ofClauses? : List ClausePattern → Option Pattern
  | [] => none
  | p :: ps => some (ps.foldl (fun acc q => .and acc (.clause q)) (.clause p))

end Pattern

end Antecedent
