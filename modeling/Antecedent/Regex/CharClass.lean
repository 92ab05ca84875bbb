import Antecedent.Text.CodeRanges

namespace Antecedent

namespace Regex

inductive ClassItem where
  | range (first last : Char)
  | digit (negated : Bool)
  | space (negated : Bool)
  | word (negated : Bool)
  deriving DecidableEq

def ClassItem.holds (item : ClassItem) (c : Char) : Bool :=
  match item with
  | .range first last => first ≤ c && c ≤ last
  | .digit negated => isDecimalDigit c != negated
  | .space negated => isSpace c != negated
  | .word negated => isWordChar c != negated

structure CharClass where
  negated : Bool
  items : List ClassItem
  deriving DecidableEq

namespace CharClass

def holds (k : CharClass) (c : Char) : Bool :=
  k.items.any (·.holds c) != k.negated

def single (c : Char) : CharClass := ⟨false, [.range c c]⟩

def anyInLine : CharClass := ⟨true, [.range '\n' '\n']⟩

end CharClass

end Regex

end Antecedent
