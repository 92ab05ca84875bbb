import Antecedent.Names
import Antecedent.Source.Lexeme
import Antecedent.Value

namespace Antecedent.Source

def unescape (c : Char) : List Char :=
  if c = '"' then ['"']
  else if c = '\\' then ['\\']
  else if c = 'n' then ['\n']
  else if c = 't' then ['\t']
  -- An unknown pair stands for itself.
  else ['\\', c]

def untilQuote : List Char → Option (List Char × List Char)
  | [] => none
  | '"' :: rest => some ([], rest)
  | ['\\'] => none
  | '\\' :: c :: rest => (untilQuote rest).map fun (text, after) => (unescape c ++ text, after)
  | c :: rest => (untilQuote rest).map fun (text, after) => (c :: text, after)

def stringLiteral : Reader String := fun s =>
  match s with
  | '"' :: rest =>
    match untilQuote rest with
    | some (text, after) => .ok (String.ofList text) after
    -- Without a closing quote the whole text is used up.
    | none => .fail ⟨.retry, [], []⟩
  | _ => .fail ⟨.retry, [], s⟩

def negativeNumber : Reader Value := do
  Reader.literal "-"
  let body ← Reader.charsOf fun c => Numeral.isDigit c || c == '.'
  -- What follows the sign has to be a number, whatever else could be read there.
  if body.contains '.' then
    match Numeral.float? ('-' :: body) with
    | some x => return .float x
    | none => Reader.abort
  else
    match Numeral.int? ('-' :: body) with
    | some n => return .int n
    | none => Reader.abort

def decimalFraction : Reader Value := do
  let whole ← Reader.charsOf Numeral.isDigit
  Reader.literal "."
  let fraction ← Reader.charsOf Numeral.isDigit
  match Numeral.float? (whole ++ '.' :: fraction) with
  | some x => return .float x
  | none => Reader.fail

def integerNumeral (s : List Char) : Option (List Char × List Char) :=
  let (sign, body) :=
    match s with
    | '+' :: rest => (['+'], rest)
    | '-' :: rest => (['-'], rest)
    | rest => ([], rest)
  match body with
  | [] => none
  | c :: rest =>
    if '1' ≤ c && c ≤ '9' then
      some (sign ++ c :: rest.takeWhile Numeral.isDigit, rest.dropWhile Numeral.isDigit)
    else if c = '0' && sign.isEmpty then some (['0'], rest)
    else none

def integer : Reader Int64 := fun s =>
  match integerNumeral s with
  | some (digits, rest) =>
    match Numeral.int? digits with
    | some n => .ok n rest
    | none => .fail ⟨.retry, [], s⟩
  | none => .fail ⟨.retry, [], s⟩

def value : Reader Value := do
  layout
  Reader.expecting .value <| Reader.firstOf
    [ Value.text <$> stringLiteral,
      (do keyword "true"; return .bool true),
      (do keyword "false"; return .bool false),
      negativeNumber,
      decimalFraction,
      Value.int <$> integer ]

def tagName : Reader Tag := Tag.named <$> identifier

def tagReference : Reader Tag := do
  Reader.literal "@"
  Reader.commit tagName

end Antecedent.Source
