import Antecedent.Test.Basic

namespace Antecedent

structure Property where
  path : Path
  tag : Option Tag

namespace Property

def of (path : String) : Property := ⟨Path.parse path, none⟩

def bind (p : Property) (tag : Tag) : Property := { p with tag := some tag }

def capture (p : Property) : PropertyTest := ⟨p.path, p.tag, none, .none⟩

def test (p : Property) (op : Operator) (operand : Operand) : PropertyTest :=
  ⟨p.path, p.tag, some op, operand⟩

def eq (p : Property) (x : Operand) : PropertyTest := p.test .eq x
def notEq (p : Property) (x : Operand) : PropertyTest := p.test .notEq x
def ne (p : Property) (x : Operand) : PropertyTest := p.test .ne x
def gt (p : Property) (x : Operand) : PropertyTest := p.test .gt x
def gte (p : Property) (x : Operand) : PropertyTest := p.test .gte x
def lt (p : Property) (x : Operand) : PropertyTest := p.test .lt x
def lte (p : Property) (x : Operand) : PropertyTest := p.test .lte x
def resembles (p : Property) (source : String) : PropertyTest := p.test .matching (.pattern source)
def between (p : Property) (low high : Value) : PropertyTest := p.test .between (.range low high)
def betweenTags (p : Property) (low high : Tag) : PropertyTest := p.test .between (.refs [low, high])
def isA (p : Property) (type : String) : PropertyTest := p.test .isA (.type type)

end Property

end Antecedent
