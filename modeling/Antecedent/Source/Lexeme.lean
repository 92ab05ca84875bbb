import Antecedent.Names
import Antecedent.Source.Reader

namespace Antecedent.Source

def isBlank (c : Char) : Bool :=
  c == ' ' || c == '\t' || c == '\n' || c == '\x0c' || c == '\r'

/-- Skips blanks and comments. Inside a comment the text from its mark on is kept: a carriage return
that does not end the line leaves the whole comment unread. -/
def skipFrom : (comment : Option (List Char)) → List Char → List Char
  | _, [] => []
  | none, c :: rest =>
    if isBlank c then skipFrom none rest
    else if c = '#' then skipFrom (some (c :: rest)) rest
    else c :: rest
  | some mark, c :: rest =>
    if c = '\n' then skipFrom none rest
    else if c = '\r' then if rest.head? = some '\n' then skipFrom none rest else mark
    else skipFrom (some mark) rest

def skipLayout (s : List Char) : List Char := skipFrom none s

def layout : Reader Unit := fun s => .ok () (skipLayout s)

def isWordStart (c : Char) : Bool := c.isAlpha || c == '_'

def isWordPart (c : Char) : Bool := c.isAlphanum || c == '_'

def identifier : Reader String := fun s =>
  match s with
  | [] => .fail ⟨.retry, [], []⟩
  | c :: rest =>
    if isWordStart c then
      .ok (String.ofList (c :: rest.takeWhile isWordPart)) (rest.dropWhile isWordPart)
    else .fail ⟨.retry, [], c :: rest⟩

def keyword (word : String) : Reader Unit := do
  Reader.literal word
  Reader.notNext isWordPart

def path : Reader Path := do
  let first ← identifier
  let more ← Reader.many do
    Reader.literal "."
    identifier
  return ⟨first :: more⟩

def reserved : List String :=
  ["rule", "where", "AND", "and", "OR", "or", "not", "is_a", "collect", "exists", "between", "as",
   "true", "false"]

def typeName : Reader String := identifier.filter fun name => !reserved.contains name

end Antecedent.Source
