import Antecedent.Proofs.Condition.Built
import Antecedent.Proofs.Source.Parsed

namespace Antecedent

def isIdentifier (name : String) : Bool :=
  match name.toList with
  | [] => false
  | c :: cs => Source.isWordStart c && cs.all Source.isWordPart

def isTypeName (name : String) : Bool := isIdentifier name && !Source.reserved.contains name

def isReadable (c : Char) : Bool :=
  c == '\t' || c == '\n' || !(isUnprintable c || isExtending c)

def isPrintable (text : String) : Bool := text.toList.all isReadable

def Path.isPrintable (p : Path) : Bool := !p.isRoot && p.segments.all isIdentifier

def Value.isPrintable : Value → Bool
  | .int _ => true
  | .float _ => false
  | .bool _ => true
  | .text s => Antecedent.isPrintable s

inductive Operand.Printable : Operator → Operand → Prop
  | value {op : Operator} {v : Value} : op ∈ Operator.simple → v.isPrintable →
      Printable op (.value v)
  | reference {op : Operator} {name : String} : op ∈ Operator.simple → isIdentifier name →
      Printable op (.refs [.named name])
  | pattern {source : String} : isPrintable source → Printable .matching (.pattern source)
  | range {low high : Value} : low.isPrintable → high.isPrintable →
      Printable .between (.range low high)
  | references {low high : String} : isIdentifier low → isIdentifier high →
      Printable .between (.refs [.named low, .named high])
  | type {name : String} : isTypeName name → Printable .isA (.type name)

inductive PropertyTest.Printable : PropertyTest → Prop
  | bare {path : Path} {name : Option String} : path.isPrintable → name.all isIdentifier →
      Printable ⟨path, name.map .named, none, .none⟩
  | compared {path : Path} {name : Option String} {op : Operator} {operand : Operand} :
      path.isPrintable → name.all isIdentifier → operand.Printable op →
      Printable ⟨path, name.map .named, some op, operand⟩

structure Clause.Printable (c : Clause) : Prop where
  nonempty : c.tokens ≠ []
  inOrder : ∃ (modifiers : List Modifier) (target : Option String) (name : Option String)
    (block : Option (List PropertyTest)),
    c.tokens = inOrder modifiers target (name.map .named) (block.map (·.map .property)) ∧
      target.all isTypeName ∧ name.all isIdentifier ∧ ∀ ts ∈ block, ∀ t ∈ ts, t.Printable

namespace Definition

structure Printable (d : Definition) : Prop where
  name : isIdentifier d.name
  conditions : ∀ c ∈ d.conditions, c.Built Clause.Printable
  nonempty : d.conditions ≠ []
  -- A single AND group would read back as the list of its members.
  top : ∀ members, d.conditions ≠ [.group .and members]

def render (d : Definition) : String :=
  "rule " ++ d.name ++
    (match d.priority with
      | some p => " (priority " ++ toString p.toInt ++ ")"
      | none => "") ++
    ": " ++ d.condition.render

end Definition

end Antecedent
