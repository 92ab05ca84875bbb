import Antecedent.Condition.Basic
import Antecedent.Source.Test

namespace Antecedent.Source

def modifier : Reader Modifier :=
  Reader.firstOf
    [ (do keyword "not"; return .negated),
      (do keyword "is_a"; return .subtyped),
      (do keyword "collect"; return .collected),
      (do keyword "exists"; return .existing) ]

def clauseTag : Reader Tag := do
  layout
  Reader.literal ":"
  Reader.commit tagName

def clauseTests : Reader (List Test) := do
  layout
  keyword "where"
  Reader.commit testBlock

def clause : Reader Clause := do
  layout
  let modifiers ← Reader.many do
    let m ← modifier
    layout
    return m
  let target ← Reader.optional typeName
  let tag ← Reader.optional clauseTag
  let tests ← Reader.optional clauseTests
  let tokens :=
    modifiers.map Token.modifier ++ target.toList.map Token.target ++ tag.toList.map Token.tag ++
      tests.toList.map Token.tests
  -- Any part may be missing, but not all of them.
  if tokens.isEmpty then Reader.fail else return ⟨tokens⟩

def grouped (k : Connective) (first : Condition) (more : List Condition) : Condition :=
  if more.isEmpty then first else .group k (first :: more)

def primary (condition : Reader Condition) : Reader Condition := do
  layout
  Reader.expecting .clause <| Reader.firstOf
    [ (do
        Reader.literal "("
        let c ← condition
        layout
        Reader.commit (Reader.literal ")")
        return c),
      Condition.clause <$> clause ]

def spellings : Connective → List String
  | .and => ["AND", "and"]
  | .or => ["OR", "or"]

def connective (k : Connective) : Reader Unit := do
  layout
  Reader.firstOf ((spellings k).map keyword)

def chain (k : Connective) (member : Reader Condition) : Reader Condition := do
  let first ← member
  let more ← Reader.many do
    connective k
    Reader.commit member
  return grouped k first more

def disjunction (condition : Reader Condition) : Reader Condition :=
  chain .or (chain .and (primary condition))

def conditionWithin : (depth : Nat) → Reader Condition
  | 0 => Reader.stalled
  | depth + 1 => do
    layout
    disjunction (conditionWithin depth)

-- Each parenthesis takes up a character, so the length of the text bounds their depth.
def condition : Reader Condition := fun s => conditionWithin (s.length + 1) s

end Antecedent.Source
