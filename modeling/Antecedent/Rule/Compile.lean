import Antecedent.Condition.NormalForm
import Antecedent.Pattern.Resolve
import Antecedent.Rule.Basic

/-! A definition compiled into one rule for each of its variants. -/

namespace Antecedent

structure Limits where
  maxVariants : Option Nat

def Limits.unbounded : Limits := ⟨none⟩

def Limits.exceeded? (l : Limits) (variants : Nat) : Option Nat :=
  l.maxVariants.filter (· < variants)

variable {α : Type} [PatternReader]

/-- The clauses of a row in order, each in the scope that the ones before it leave behind. -/
def compileRow (rule : String) : (index : Nat) → Scope → List Clause →
    Except CompileFault (List ClausePattern)
  | _, _, [] => .ok []
  | index, scope, c :: cs =>
    match c.resolve index scope with
    | (.ok p, scope') => (compileRow rule (index + 1) scope' cs).map (p :: ·)
    | (.error fault, _) => .error (.inClause rule index fault)

def compileVariant (rule : String) (clauses : List Clause) : Except CompileFault Pattern :=
  (compileRow rule 0 .empty clauses).bind fun ps =>
    match Pattern.ofClauses? ps with
    | some p => .ok p
    | none => .error (.noClauses rule)

def assemble (name : String) (priority : Int32) (action : α) :
    List (List Clause) → Except CompileFault (List (Rule α))
  | [] => .ok []
  | row :: rows =>
    (compileVariant name row).bind fun pattern =>
      (assemble name priority action rows).map (⟨name, pattern, action, priority⟩ :: ·)

namespace Definition

def compile (d : Definition) (limits : Limits) (action : α) :
    Except CompileFault (List (Rule α)) :=
  if d.conditions.isEmpty then .error (.noConditions d.name)
  else
    match d.condition.emptyGroup? with
    | some k => .error (.malformed d.name (k.word ++ " group has no children"))
    | none =>
      -- The variants are counted before any of them is built.
      match limits.exceeded? d.condition.variantCount with
      | some limit => .error (.tooManyVariants d.name d.condition.variantCount limit)
      | none => assemble d.name d.effectivePriority action d.condition.normalForm.disjuncts

end Definition

end Antecedent
