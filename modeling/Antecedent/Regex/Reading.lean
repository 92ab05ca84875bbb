import Antecedent.Decimal.Notation
import Antecedent.Pattern.Atom
import Antecedent.Regex.Basic

/-! One reader of patterns, for regular expressions without inline flags, named groups, general
categories and classes inside classes. -/

namespace Antecedent.Regex

inductive Escape where
  | char (c : Char)
  | item (i : ClassItem)
  | assertion (r : Regex)

def hexValue? (digits : List Char) : Option Nat :=
  if digits.isEmpty then none
  else
    digits.foldl
      (fun n c => n.bind fun n =>
        if Numeral.isDigit c then some (16 * n + Numeral.digitValue c)
        else if 'a' ≤ c && c ≤ 'f' then some (16 * n + (c.toNat - 'a'.toNat + 10))
        else if 'A' ≤ c && c ≤ 'F' then some (16 * n + (c.toNat - 'A'.toNat + 10))
        else none)
      (some 0)

def codePoint? (digits : List Char) : Option Char :=
  (hexValue? digits).bind fun n => if n.isValidChar then some (Char.ofNat n) else none

def codePointEscape? (width : Nat) : List Char → Option (Escape × List Char)
  | '\x7b' :: rest =>
    match rest.dropWhile (· != '\x7d') with
    | [] => none
    | _ :: after => (codePoint? (rest.takeWhile (· != '\x7d'))).map (.char ·, after)
  | rest =>
    if rest.length < width then none
    else (codePoint? (rest.take width)).map (.char ·, rest.drop width)

def isEscapable (c : Char) : Bool :=
  c.toNat < 0x80 && !c.isAlphanum && c != '<' && c != '>'

def escape? : List Char → Option (Escape × List Char)
  | [] => none
  | c :: rest =>
    match c with
    | 'd' => some (.item (.digit false), rest)
    | 'D' => some (.item (.digit true), rest)
    | 's' => some (.item (.space false), rest)
    | 'S' => some (.item (.space true), rest)
    | 'w' => some (.item (.word false), rest)
    | 'W' => some (.item (.word true), rest)
    | 'a' => some (.char '\x07', rest)
    | 'f' => some (.char '\x0c', rest)
    | 'n' => some (.char '\n', rest)
    | 'r' => some (.char '\r', rest)
    | 't' => some (.char '\t', rest)
    | 'v' => some (.char '\x0b', rest)
    | 'A' => some (.assertion .textStart, rest)
    | 'z' => some (.assertion .textEnd, rest)
    | 'b' => some (.assertion (.wordBoundary true), rest)
    | 'B' => some (.assertion (.wordBoundary false), rest)
    | 'x' => codePointEscape? 2 rest
    | 'u' => codePointEscape? 4 rest
    | 'U' => codePointEscape? 8 rest
    | _ => if isEscapable c then some (.char c, rest) else none

def classMember? : List Char → Option (ClassItem × List Char)
  | [] => none
  | '[' :: _ => none
  | '\\' :: rest =>
    match escape? rest with
    | some (.char c, after) => some (.range c c, after)
    | some (.item i, after) => some (i, after)
    | _ => none
  | c :: rest => some (.range c c, rest)

def rangeOf? : ClassItem → ClassItem → Option ClassItem
  | .range first _, .range last _ => if first ≤ last then some (.range first last) else none
  | _, _ => none

/-- A range has a character at either end, in order. A hyphen before the closing bracket or before
another hyphen makes none. -/
def classRange? (s : List Char) : Option (ClassItem × List Char) :=
  match classMember? s with
  | none => none
  | some (first, '-' :: ']' :: rest) => some (first, '-' :: ']' :: rest)
  | some (first, '-' :: '-' :: rest) => some (first, '-' :: '-' :: rest)
  | some (first, '-' :: rest) =>
    (classMember? rest).bind fun (last, after) => (rangeOf? first last).map (·, after)
  | some (first, rest) => some (first, rest)

def classItems? : Nat → List Char → Option (List ClassItem × List Char)
  | 0, _ => none
  | _ + 1, [] => none
  | _ + 1, ']' :: rest => some ([], rest)
  | fuel + 1, s =>
    (classRange? s).bind fun (item, rest) =>
      (classItems? fuel rest).map fun (items, after) => (item :: items, after)

def classBody? (s : List Char) : Option (List ClassItem × List Char) :=
  let hyphens := (s.takeWhile (· == '-')).map fun c => ClassItem.range c c
  match hyphens, s.dropWhile (· == '-') with
  -- A closing bracket that comes first is a member.
  | [], ']' :: rest =>
    (classItems? (rest.length + 1) rest).map fun (items, after) => (.range ']' ']' :: items, after)
  | _, rest =>
    (classItems? (rest.length + 1) rest).map fun (items, after) => (hyphens ++ items, after)

def class? : List Char → Option (CharClass × List Char)
  | '^' :: rest => (classBody? rest).map fun (items, after) => (⟨true, items⟩, after)
  | rest => (classBody? rest).map fun (items, after) => (⟨false, items⟩, after)

def count? (s : List Char) : Option (Nat × List Char) :=
  let s := s.dropWhile isSpace
  let digits := s.takeWhile Numeral.isDigit
  let n := Numeral.value digits
  if digits.isEmpty || UInt32.size ≤ n then none
  else some (n, (s.dropWhile Numeral.isDigit).dropWhile isSpace)

def bounds? (s : List Char) : Option (Nat × Option Nat × List Char) :=
  match count? s with
  | some (n, '\x7d' :: rest) => some (n, some n, rest)
  | some (n, ',' :: '\x7d' :: rest) => some (n, none, rest)
  | some (n, ',' :: rest) =>
    match count? rest with
    | some (m, '\x7d' :: after) => if n ≤ m then some (n, some m, after) else none
    | _ => none
  | _ => none

def skipLazy : List Char → List Char
  -- A mark for short matches first, which changes no answer here.
  | '?' :: rest => rest
  | rest => rest

def repetitions? : Nat → Regex → List Char → Option (Regex × List Char)
  | 0, _, _ => none
  | fuel + 1, r, '*' :: rest => repetitions? fuel (.repeated r 0 none) (skipLazy rest)
  | fuel + 1, r, '+' :: rest => repetitions? fuel (.repeated r 1 none) (skipLazy rest)
  | fuel + 1, r, '?' :: rest => repetitions? fuel (.repeated r 0 (some 1)) (skipLazy rest)
  | fuel + 1, r, '\x7b' :: rest =>
    (bounds? rest).bind fun (n, m, after) => repetitions? fuel (.repeated r n m) (skipLazy after)
  | _ + 1, r, rest => some (r, rest)

def piece? (inner : List Char → Option (Regex × List Char)) :
    List Char → Option (Regex × List Char)
  | [] => none
  | '(' :: '?' :: ':' :: rest => closed (inner rest)
  | '(' :: '?' :: _ => none
  | '(' :: rest => closed (inner rest)
  | '[' :: rest => (class? rest).map fun (k, after) => (.char k, after)
  | '\\' :: rest =>
    match escape? rest with
    | some (.char c, after) => some (.char (.single c), after)
    | some (.item i, after) => some (.char ⟨false, [i]⟩, after)
    | some (.assertion r, after) => some (r, after)
    | none => none
  | '.' :: rest => some (.char .anyInLine, rest)
  | '^' :: rest => some (.textStart, rest)
  | '$' :: rest => some (.textEnd, rest)
  | c :: rest =>
    if c == '*' || c == '+' || c == '?' || c == '\x7b' then none
    else some (.char (.single c), rest)
where
  closed : Option (Regex × List Char) → Option (Regex × List Char)
    | some (r, ')' :: rest) => some (r, rest)
    | _ => none

def alternatives? : Nat → List Char → Option (Regex × List Char)
  | 0, _ => none
  | fuel + 1, s =>
    match s with
    | [] => some (.empty, [])
    | ')' :: rest => some (.empty, ')' :: rest)
    | '|' :: rest => (alternatives? fuel rest).map fun (r, after) => (.alt .empty r, after)
    | _ =>
      (piece? (alternatives? fuel) s).bind fun (p, afterPiece) =>
        (repetitions? (afterPiece.length + 1) p afterPiece).bind fun (p, rest) =>
          (alternatives? fuel rest).map fun (r, after) => (continued p r, after)
where
  continued (p : Regex) : Regex → Regex
    | .alt first second => .alt (.seq p first) second
    | r => .seq p r

def read (source : String) : Except String Matcher :=
  match alternatives? (source.length + 1) source.toList with
  | some (r, []) => .ok ⟨source, r.foundIn⟩
  | _ => .error "not a regular expression"

scoped instance : PatternReader where
  read := read
  source_of_read {source m} h := by
    unfold read at h
    split at h
    · cases h
      rfl
    · cases h

end Antecedent.Regex
