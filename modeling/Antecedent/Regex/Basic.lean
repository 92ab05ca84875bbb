import Antecedent.Regex.CharClass

namespace Antecedent

inductive Regex where
  | empty
  | char (k : Regex.CharClass)
  | textStart
  | textEnd
  | wordBoundary (present : Bool)
  | seq (first second : Regex)
  | alt (first second : Regex)
  | repeated (r : Regex) (atLeast : Nat) (atMost : Option Nat)

namespace Regex

def isBoundary (text : Array Char) (i : Nat) : Bool :=
  let before := 0 < i && (text[i - 1]?.any isWordChar)
  let after := text[i]?.any isWordChar
  before != after

def iterate (step : List Nat → List Nat) : Nat → List Nat → List Nat
  | 0, positions => positions
  | n + 1, positions => iterate step n (step positions)

def reach (step : List Nat → List Nat) : Nat → List Nat → List Nat → List Nat
  | 0, reached, _ => reached
  | n + 1, reached, newest =>
    match (step newest).filter (!reached.contains ·) with
    | [] => reached
    | further => reach step n (reached ++ further) further

/-- The positions where a match can end that begins at one of the given positions. Without an upper
bound on a repetition, as many rounds as there are positions reach them all. -/
def ends (text : Array Char) : Regex → List Nat → List Nat
  | .empty, starts => starts
  | .char k, starts => starts.filterMap fun i =>
      if text[i]?.any k.holds then some (i + 1) else none
  | .textStart, starts => starts.filter (· == 0)
  | .textEnd, starts => starts.filter (· == text.size)
  | .wordBoundary present, starts => starts.filter (isBoundary text · == present)
  | .seq first second, starts => second.ends text (first.ends text starts)
  | .alt first second, starts => (first.ends text starts ++ second.ends text starts).eraseDups
  | .repeated r atLeast atMost, starts =>
    let rounds :=
      match atMost with
      | some n => n - atLeast
      | none => text.size + 1
    let after := iterate (r.ends text) atLeast starts
    reach (r.ends text) rounds after after

def foundIn (r : Regex) (text : String) : Bool :=
  let chars := text.toList.toArray
  !(r.ends chars (List.range (chars.size + 1))).isEmpty

end Regex

end Antecedent
