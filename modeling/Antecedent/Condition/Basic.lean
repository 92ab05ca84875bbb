import Antecedent.Clause.Basic

namespace Antecedent

inductive Connective where
  | and | or
  deriving DecidableEq

def Connective.word : Connective → String
  | .and => "AND"
  | .or => "OR"

inductive Condition where
  | clause (c : Clause)
  | group (k : Connective) (members : List Condition)

def countLimit : Nat := UInt64.size - 1

def saturate (n : Nat) : Nat := min n countLimit

namespace Condition

/-- Extends a group of the same connective at its end, and pairs anything else. -/
def join (k : Connective) (c d : Condition) : Condition :=
  match c with
  | .clause _ => .group k [c, d]
  | .group k' members => if k' = k then .group k (members ++ [d]) else .group k [c, d]

def and (c d : Condition) : Condition := c.join .and d

def or (c d : Condition) : Condition := c.join .or d

mutual
def beq : Condition → Condition → Bool
  | .clause a, .clause b => a == b
  | .group k members, .group k' members' => k == k' && beqList members members'
  | _, _ => false

def beqList : List Condition → List Condition → Bool
  | [], [] => true
  | c :: cs, d :: ds => c.beq d && beqList cs ds
  | _, _ => false
end

instance : BEq Condition := ⟨beq⟩

mutual
def render : Condition → String
  | .clause c => c.render
  | .group k members => "(" ++ (" " ++ k.word ++ " ").intercalate (renderList members) ++ ")"

def renderList : List Condition → List String
  | [] => []
  | c :: cs => c.render :: renderList cs
end

mutual
def leaves : Condition → List Clause
  | .clause c => [c]
  | .group _ members => leavesList members

def leavesList : List Condition → List Clause
  | [] => []
  | c :: cs => c.leaves ++ leavesList cs
end

def clauseCount (c : Condition) : Nat := c.leaves.length

mutual
def emptyGroup? : Condition → Option Connective
  | .clause _ => none
  -- Outer groups come before inner ones.
  | .group k [] => some k
  | .group _ (c :: cs) => emptyGroupIn? (c :: cs)

def emptyGroupIn? : List Condition → Option Connective
  | [] => none
  | c :: cs => c.emptyGroup?.orElse fun _ => emptyGroupIn? cs
end

mutual
def variantCount : Condition → Nat
  | .clause _ => 1
  | .group .or members => variantSum members
  | .group .and members => variantProduct members

def variantSum : List Condition → Nat
  | [] => 0
  | c :: cs => saturate (c.variantCount + variantSum cs)

def variantProduct : List Condition → Nat
  | [] => 1
  | c :: cs => saturate (c.variantCount * variantProduct cs)
end

end Condition

end Antecedent
