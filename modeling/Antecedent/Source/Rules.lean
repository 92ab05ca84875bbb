import Antecedent.Rule.Basic
import Antecedent.Source.Condition
import Antecedent.Source.Position

namespace Antecedent.Source

def priority : Reader Int32 := do
  layout
  Reader.literal "("
  layout
  Reader.literal "priority"
  layout
  let n ← Reader.commit integer
  layout
  Reader.commit (Reader.literal ")")
  if Int32.minValue.toInt ≤ n.toInt ∧ n.toInt ≤ Int32.maxValue.toInt then
    return Int32.ofInt n.toInt
  else Reader.abort

def topConditions : Condition → List Condition
  | .group .and members => members
  | c => [c]

def definition : Reader Definition := do
  layout
  keyword "rule"
  layout
  let name ← Reader.expecting .ruleName (Reader.commit identifier)
  let p ← Reader.optional priority
  layout
  Reader.commit (Reader.literal ":")
  let body ← Reader.expecting .ruleBody (Reader.commit condition)
  return ⟨name, p, topConditions body⟩

def endOfText : Reader Unit := fun s =>
  if s.isEmpty then .ok () [] else .fail ⟨.retry, [], s⟩

def definitions : Reader (List Definition) := do
  let ds ← Reader.many definition
  layout
  return ds

def document : Reader (List Definition) := do
  let ds ← definitions
  endOfText
  return ds

def parse (text : String) : Except SyntaxError (List Definition) :=
  match document text.toList with
  | .ok ds _ => .ok ds
  | .fail f => .error (SyntaxError.ofFailure text.toList f)

end Antecedent.Source
