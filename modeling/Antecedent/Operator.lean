namespace Antecedent

inductive Operator where
  | eq | notEq | ne | gt | gte | lt | lte | matching | between | isA
  deriving DecidableEq

inductive Comparison where
  | gt | gte | lt | lte
  deriving DecidableEq

def Comparison.render : Comparison → String
  | .gt => ">"
  | .gte => ">="
  | .lt => "<"
  | .lte => "<="

namespace Operator

def render : Operator → String
  | .eq => "=="
  | .notEq => "not =="
  | .ne => "!="
  | .gt => ">"
  | .gte => ">="
  | .lt => "<"
  | .lte => "<="
  | .matching => "=~"
  | .between => "between"
  | .isA => "is_a"

def all : List Operator :=
  [.eq, .notEq, .ne, .gt, .gte, .lt, .lte, .matching, .between, .isA]

def parse? (text : String) : Option Operator :=
  all.find? fun op => op.render == text

def comparison? : Operator → Option Comparison
  | .gt => some .gt
  | .gte => some .gte
  | .lt => some .lt
  | .lte => some .lte
  | _ => none

def arity : Operator → Nat
  | .between => 2
  | _ => 1

end Operator

end Antecedent
