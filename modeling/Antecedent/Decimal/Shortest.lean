/-! The shortest decimal that reads back to a given binary number, found by exact integer arithmetic. -/

namespace Antecedent

structure Decimal where
  digits : Nat
  exponent : Int
  deriving DecidableEq

/-- The positive number `significand * 2 ^ exponent`. The flag says that the next smaller number of
its format lies at half the usual distance. -/
structure Binary where
  significand : Nat
  exponent : Int
  narrowBelow : Bool
  deriving DecidableEq

namespace Binary

structure Interval where
  low : Nat
  value : Nat
  high : Nat
  denominator : Nat
  closed : Bool

def interval (b : Binary) : Interval :=
  let scale := Nat.pow 2 (b.exponent - 2).toNat
  { low := (4 * b.significand - if b.narrowBelow then 1 else 2) * scale
    value := 4 * b.significand * scale
    high := (4 * b.significand + 2) * scale
    denominator := Nat.pow 2 (2 - b.exponent).toNat
    -- Halfway to a neighbour, numbers round to the even significand.
    closed := b.significand % 2 == 0 }

end Binary

namespace Binary.Interval

def holds (i : Interval) (k : Int) (n : Nat) : Bool :=
  let point := n * Nat.pow 10 k.toNat * i.denominator
  let scale := Nat.pow 10 (-k).toNat
  if i.closed then i.low * scale ≤ point && point ≤ i.high * scale
  else i.low * scale < point && point < i.high * scale

def leading (i : Interval) : Int :=
  if i.denominator ≤ i.value then
    (Nat.toDigits 10 (i.value / i.denominator)).length - 1
  else
    let d := (Nat.toDigits 10 (i.denominator / i.value)).length - 1
    if i.value * Nat.pow 10 d == i.denominator then -d else -d - 1

/-- The multiple of `10 ^ k` that lies in the interval next to the value: the nearer of the two
around it, the larger one when both are equally near. -/
def onGrid? (i : Interval) (k : Int) : Option Nat :=
  let num := i.value * Nat.pow 10 (-k).toNat
  let den := i.denominator * Nat.pow 10 k.toNat
  let below := num / den
  match i.holds k below, i.holds k (below + 1) with
  | true, true => some (if 2 * (num % den) < den then below else below + 1)
  | true, false => some below
  | false, true => some (below + 1)
  | false, false => none

def search (i : Interval) (k : Int) : Nat → Decimal
  | 0 => ⟨i.value / i.denominator, 0⟩
  | fuel + 1 =>
    match i.onGrid? k with
    | some n => ⟨n, k⟩
    | none => i.search (k - 1) fuel

end Binary.Interval

def Binary.shortest (b : Binary) : Decimal :=
  let i := b.interval
  -- Seventeen digits tell any two numbers of 53 significant bits apart.
  i.search i.leading 17

def Binary.ofFloat (x : Float) : Binary :=
  let bits := x.toBits.toNat
  let fraction : Nat := bits % Nat.pow 2 52
  let biased : Nat := bits / Nat.pow 2 52 % Nat.pow 2 11
  if biased == 0 then ⟨fraction, -1074, false⟩
  else ⟨Nat.pow 2 52 + fraction, (biased : Int) - 1075, fraction == 0 && biased != 1⟩

end Antecedent
