import Antecedent.Condition.Basic

/-! Disjunctive normal form: the rows of clauses of which one has to hold. -/

namespace Antecedent

inductive NormalForm where
  | conjunction (clauses : List Clause)
  | disjunction (rows : List (List Clause))
  deriving BEq

namespace NormalForm

def disjuncts : NormalForm → List (List Clause)
  | .conjunction clauses => [clauses]
  | .disjunction rows => rows

def size (f : NormalForm) : Nat := f.disjuncts.length

def renderRow (clauses : List Clause) : String :=
  "(" ++ " AND ".intercalate (clauses.map Clause.render) ++ ")"

def render (f : NormalForm) : String :=
  " OR ".intercalate (f.disjuncts.map renderRow)

end NormalForm

namespace Condition

/-- Every row of the first list continued by every row of the second, the first varying slowest. -/
def continueRows (rows alternatives : List (List Clause)) : List (List Clause) :=
  rows.flatMap fun row => alternatives.map (row ++ ·)

def choices (parts : List (List (List Clause))) : List (List Clause) :=
  parts.foldl continueRows [[]]

mutual
def normalForm : Condition → NormalForm
  | .clause c => .conjunction [c]
  | .group .or members => .disjunction (alternatives members).flatten
  | .group .and members =>
    let parts := alternatives members
    if parts.all (·.length == 1) then .conjunction (choices parts).flatten
    else .disjunction (choices parts)

def alternatives : List Condition → List (List (List Clause))
  | [] => []
  | c :: cs => c.normalForm.disjuncts :: alternatives cs
end

end Condition

end Antecedent
