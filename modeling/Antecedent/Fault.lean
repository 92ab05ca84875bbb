import Antecedent.Clause.Basic

namespace Antecedent

inductive ClauseFault where
  | unsupportedQuantifier (quantifier : String)
  | disallowedOperator (property : String) (op : Operator)
  | mixedScope (property : String) (op : Operator) (tags : List Tag)
  | unresolvable (property : String) (tag : Tag)
  | invalidSyntax (reason : String)
  | duplicateTag (tag : Tag)
  | invalidPattern (source : String) (detail : String)
  | tagsExhausted
  deriving DecidableEq

inductive CompileFault where
  | malformed (rule : String) (reason : String)
  | inClause (rule : String) (index : Nat) (fault : ClauseFault)
  | tooManyVariants (rule : String) (variants limit : Nat)
  deriving DecidableEq

inductive FaultKind where
  | malformed | unsupportedQuantifier | disallowedOperator | mixedScope | unresolvable
  | invalidSyntax | duplicateTag | invalidPattern | tagsExhausted | tooManyVariants
  deriving DecidableEq

namespace ClauseFault

def kind : ClauseFault → FaultKind
  | .unsupportedQuantifier _ => .unsupportedQuantifier
  | .disallowedOperator _ _ => .disallowedOperator
  | .mixedScope _ _ _ => .mixedScope
  | .unresolvable _ _ => .unresolvable
  | .invalidSyntax _ => .invalidSyntax
  | .duplicateTag _ => .duplicateTag
  | .invalidPattern _ _ => .invalidPattern
  | .tagsExhausted => .tagsExhausted

def unexpected (token : Token) (previous : Option Token) : ClauseFault :=
  .invalidSyntax <|
    match previous with
    | some p => "unexpected " ++ token.describe ++ " after " ++ p.describe
    | none => "unexpected " ++ token.describe

def noOperator (path : Path) (operand : Operand) : ClauseFault :=
  .invalidSyntax ("operand '" ++ operand.render ++ "' on '" ++ path.render ++ "' has no operator")

def noOperand (path : Path) (op : Operator) : ClauseFault :=
  .invalidSyntax ("'" ++ path.render ++ " " ++ op.render ++ "' has no operand")

def notSingleValue (path : Path) (op : Operator) : ClauseFault :=
  .invalidSyntax ("'" ++ path.render ++ " " ++ op.render ++ "' does not take a single value")

def wrongOperand (path : Path) (op : Operator) (operand : Operand) : ClauseFault :=
  .invalidSyntax
    ("'" ++ path.render ++ " " ++ op.render ++ "' cannot take operand '" ++ operand.render ++ "'")

def wrongArity (path : Path) (op : Operator) (count : Nat) : ClauseFault :=
  .invalidSyntax
    ("'" ++ path.render ++ " " ++ op.render ++ "' takes " ++ toString op.arity ++
      " binding(s), got " ++ toString count)

def message (rule : String) (index : Nat) : ClauseFault → String
  | .unsupportedQuantifier quantifier =>
    "the '" ++ quantifier ++ "' quantifier is not yet supported (rule '" ++ rule ++ "', clause " ++
      toString index ++ ")"
  | .disallowedOperator property op =>
    "operator '" ++ op.render ++ "' on '" ++ property ++ "' is not allowed (rule '" ++ rule ++
      "', clause " ++ toString index ++ "); use 'not ==' instead"
  | .mixedScope property op tags =>
    "'" ++ property ++ " " ++ op.render ++
      "' binds to both the current clause and an earlier clause (" ++
      ", ".intercalate (tags.map Tag.render) ++ ") in rule '" ++ rule ++ "', clause " ++
      toString index
  | .unresolvable property tag =>
    "unresolvable binding '" ++ tag.render ++ "' on '" ++ property ++ "' in rule '" ++ rule ++
      "', clause " ++ toString index
  | .invalidSyntax reason =>
    "invalid clause syntax in rule '" ++ rule ++ "', clause " ++ toString index ++ ": " ++ reason
  | .duplicateTag tag =>
    "duplicate tag '" ++ tag.render ++ "' in rule '" ++ rule ++ "', clause " ++ toString index
  | .invalidPattern source detail =>
    "invalid pattern " ++ quoted source ++ " in rule '" ++ rule ++ "', clause " ++
      toString index ++ ": " ++ detail
  | .tagsExhausted =>
    "no tag number is left in rule '" ++ rule ++ "', clause " ++ toString index

end ClauseFault

namespace CompileFault

def kind : CompileFault → FaultKind
  | .malformed _ _ => .malformed
  | .inClause _ _ fault => fault.kind
  | .tooManyVariants _ _ _ => .tooManyVariants

def rule : CompileFault → String
  | .malformed rule _ => rule
  | .inClause rule _ _ => rule
  | .tooManyVariants rule _ _ => rule

def clause? : CompileFault → Option Nat
  | .inClause _ index _ => some index
  | _ => none

def message : CompileFault → String
  | .malformed rule reason => "malformed condition in rule '" ++ rule ++ "': " ++ reason
  | .inClause rule index fault => fault.message rule index
  | .tooManyVariants rule variants limit =>
    "rule '" ++ rule ++ "' expands to " ++ toString variants ++ " variants, over the limit of " ++
      toString limit

def noConditions (rule : String) : CompileFault := .malformed rule "rule has no conditions"

def noClauses (rule : String) : CompileFault := .malformed rule "rule variant has no clauses"

end CompileFault

end Antecedent
