import Antecedent.Source.Literal
import Antecedent.Test.Basic

namespace Antecedent.Source

def operator : Reader Operator := do
  layout
  Reader.firstOf
    [ (do keyword "not"; layout; Reader.literal "=="; return .notEq),
      (do Reader.literal "=="; return .eq),
      (do Reader.literal "!="; return .ne),
      (do Reader.literal "=~"; return .matching),
      (do Reader.literal ">="; return .gte),
      (do Reader.literal ">"; return .gt),
      (do Reader.literal "<="; return .lte),
      (do Reader.literal "<"; return .lt),
      (do keyword "between"; return .between),
      (do keyword "is_a"; return .isA) ]

def betweenOperand : Reader Operand := do
  layout
  Reader.expecting .twoOperands <| Reader.firstOf
    [ (do
        let low ← tagReference
        layout
        keyword "and"
        layout
        let high ← Reader.commit tagReference
        return .refs [low, high]),
      (do
        let low ← value
        layout
        keyword "and"
        let high ← Reader.commit value
        return .range low high) ]

def operandOf (op : Operator) : Reader Operand := do
  layout
  match op with
  | .matching => Reader.expecting .regularExpression (Operand.pattern <$> stringLiteral)
  | .between => betweenOperand
  | .isA => Reader.expecting .typeName (Operand.type <$> typeName)
  | _ =>
    Reader.expecting .operand <| Reader.firstOf
      [ (do let tag ← tagReference; return .refs [tag]),
        Operand.value <$> value,
        (do let p ← path; return .nested ⟨p, none, none, .none⟩) ]

def testTag : Reader Tag := do
  layout
  keyword "as"
  layout
  Reader.literal ":"
  Reader.commit tagName

def propertyTest : Reader PropertyTest := do
  layout
  let p ← Reader.expecting .propertyPath path
  let tag ← Reader.optional testTag
  match ← Reader.optional operator with
  | some op =>
    let operand ← Reader.commit (operandOf op)
    return ⟨p, tag, some op, operand⟩
  | none => return ⟨p, tag, none, .none⟩

def comma : Reader Unit := do
  layout
  Reader.literal ","

def testBlock : Reader (List Test) := do
  layout
  Reader.literal "\x7b"
  let tests ← Reader.separatedBy propertyTest comma
  -- A comma after the last test is allowed.
  let _ ← Reader.optional comma
  layout
  Reader.literal "\x7d"
  return tests.map Test.property

end Antecedent.Source
