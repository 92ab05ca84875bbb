import Antecedent.Decimal.Notation
import Antecedent.Text.Extending
import Antecedent.Text.Unprintable

namespace Antecedent

namespace Quoted

def escape (c : Char) : List Char :=
  if c = '\x00' then ['\\', '0']
  else if c = '\t' then ['\\', 't']
  else if c = '\r' then ['\\', 'r']
  else if c = '\n' then ['\\', 'n']
  else if c = '"' then ['\\', '"']
  else if c = '\\' then ['\\', '\\']
  else if isUnprintable c || isExtending c then
    '\\' :: 'u' :: '\x7b' :: (Nat.toDigits 16 c.toNat ++ ['\x7d'])
  else [c]

def encode (text : List Char) : List Char :=
  '"' :: (text.flatMap escape ++ ['"'])

end Quoted

def quoted (text : String) : String :=
  String.ofList (Quoted.encode text.toList)

/-- Equality is that of the parts: an undefined number differs from itself, and the two zeros are
equal. -/
inductive Value where
  | int (n : Int64)
  | float (x : Float)
  | bool (b : Bool)
  | text (s : String)
  deriving BEq

namespace Value

def kind : Value → String
  | .int _ => "int"
  | .float _ => "float"
  | .bool _ => "bool"
  | .text _ => "string"

def render : Value → String
  | .int n => toString n.toInt
  | .float x => String.ofList (floatText x)
  | .bool b => if b then "true" else "false"
  | .text s => quoted s

end Value

end Antecedent
