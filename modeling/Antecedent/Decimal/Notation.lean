import Antecedent.Decimal.Shortest

namespace Antecedent

namespace Decimal

def digitText (n : Nat) : List Char := Nat.toDigits 10 n

def positional (digits : List Char) (point : Int) : List Char :=
  if point ≤ 0 then
    '0' :: '.' :: (List.replicate (-point).toNat '0' ++ digits)
  else if point < digits.length then
    digits.take point.toNat ++ '.' :: digits.drop point.toNat
  else
    digits ++ List.replicate (point.toNat - digits.length) '0' ++ ['.', '0']

def scientific (digits : List Char) (point : Int) : List Char :=
  digits.take 1 ++ (if digits.length ≤ 1 then [] else '.' :: digits.drop 1) ++
    'e' :: (toString (point - 1)).toList

def text (d : Decimal) : List Char :=
  let all := digitText d.digits
  let point := all.length + d.exponent
  let significant := (all.reverse.dropWhile (· == '0')).reverse
  -- From `1e-4` up to and without `1e16`.
  if -3 ≤ point ∧ point ≤ 16 then positional significant point else scientific significant point

def toFloat (d : Decimal) : Float :=
  let magnitude := (digitText d.digits).length + d.exponent
  -- Far outside the format the power of ten need not be computed.
  if d.digits == 0 || magnitude < -400 then 0.0
  else if magnitude > 400 then 1.0 / 0.0
  else Float.ofScientific d.digits (d.exponent < 0) d.exponent.natAbs

end Decimal

def floatText (x : Float) : List Char :=
  let negative := x.toBits.toNat / Nat.pow 2 63 == 1
  if x.isNaN then ['N', 'a', 'N']
  else
    (if negative then ['-'] else []) ++
      if x.isInf then ['i', 'n', 'f']
      else if x == 0.0 then ['0', '.', '0']
      else (Binary.ofFloat x).shortest.text

namespace Numeral

def isDigit (c : Char) : Bool := '0' ≤ c && c ≤ '9'

def digitValue (c : Char) : Nat := c.toNat - '0'.toNat

def value (digits : List Char) : Nat :=
  digits.foldl (fun n c => 10 * n + digitValue c) 0

def splitSign : List Char → Bool × List Char
  | '-' :: rest => (true, rest)
  | '+' :: rest => (false, rest)
  | rest => (false, rest)

def exponent? : List Char → Option Int
  | [] => some 0
  | c :: rest =>
    let (negative, digits) := splitSign rest
    if (c == 'e' || c == 'E') && !digits.isEmpty && digits.all isDigit then
      some (if negative then -(value digits : Int) else value digits)
    else none

def decimal? (text : List Char) : Option Decimal :=
  let whole := text.takeWhile isDigit
  let afterWhole := text.dropWhile isDigit
  let (fraction, rest) :=
    match afterWhole with
    | '.' :: r => (r.takeWhile isDigit, r.dropWhile isDigit)
    | r => ([], r)
  if whole.isEmpty && fraction.isEmpty then none
  else (exponent? rest).map fun e => ⟨value (whole ++ fraction), e - fraction.length⟩

def float? (text : List Char) : Option Float :=
  let (negative, magnitude) := splitSign text
  let signed (x : Float) : Float := if negative then -x else x
  let word := String.ofList (magnitude.map Char.toLower)
  if word == "inf" || word == "infinity" then some (signed (1.0 / 0.0))
  else if word == "nan" then some (signed (0.0 / 0.0))
  else (decimal? magnitude).map fun d => signed d.toFloat

def int? (text : List Char) : Option Int64 :=
  let (negative, digits) := splitSign text
  if digits.isEmpty || !digits.all isDigit then none
  else
    let n : Int := if negative then -(value digits : Int) else value digits
    if Int64.minValue.toInt ≤ n ∧ n ≤ Int64.maxValue.toInt then some (Int64.ofInt n) else none

end Numeral

end Antecedent
