import Antecedent.Condition.Basic
import Antecedent.Pattern.Basic

namespace Antecedent

structure Definition where
  name : String
  priority : Option Int32
  conditions : List Condition
  deriving BEq

namespace Definition

def effectivePriority (d : Definition) : Int32 := d.priority.getD 0

def condition (d : Definition) : Condition := .group .and d.conditions

def find? (ds : List Definition) (name : String) : Option Definition :=
  ds.find? fun d => d.name == name

end Definition

structure Rule (α : Type) where
  name : String
  pattern : Pattern
  action : α
  priority : Int32
  deriving BEq

def Rule.render {α : Type} (r : Rule α) : String :=
  "rule " ++ r.name ++ " (priority " ++ toString r.priority.toInt ++ "): " ++ r.pattern.render

end Antecedent
