/-! What a rule calls things: properties by their paths and facts by their tags. -/

namespace Antecedent

structure Path where
  segments : List String
  deriving DecidableEq

namespace Path

def root : Path := ⟨[]⟩

def isRoot (p : Path) : Bool := p.segments.isEmpty

def parse (text : String) : Path :=
  ⟨((text.toList.splitOn '.').filter (! ·.isEmpty)).map String.ofList⟩

def render (p : Path) : String :=
  if p.isRoot then "self" else ".".intercalate p.segments

end Path

inductive Tag where
  | named (name : String)
  | generated (number : UInt32)
  deriving DecidableEq

namespace Tag

def isGenerated : Tag → Bool
  | .named _ => false
  | .generated _ => true

def render : Tag → String
  | .named name => ":" ++ name
  | .generated number => "#" ++ toString number.toNat

def reference : Tag → String
  | .named name => "@" ++ name
  | .generated number => "@#" ++ toString number.toNat

def le : Tag → Tag → Bool
  | .named a, .named b => a ≤ b
  | .named _, .generated _ => true
  | .generated _, .named _ => false
  | .generated a, .generated b => a ≤ b

def sort (tags : List Tag) : List Tag := tags.mergeSort le

def distinct (tags : List Tag) : List Tag := tags.eraseDups

end Tag

end Antecedent
