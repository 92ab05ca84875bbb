import Antecedent.Fault

/-! A clause read in the only order its tokens may have: modifiers, target, tag, tests. -/

namespace Antecedent

structure Shape where
  negated : Bool
  subtype : Bool
  collected : Bool
  target : Option String
  tag : Option Tag
  tests : List Test

namespace Shape

def leadingModifiers : List Token → List Modifier
  | .modifier m :: rest => m :: leadingModifiers rest
  | _ => []

def afterModifiers : List Token → List Token
  | .modifier _ :: rest => afterModifiers rest
  | rest => rest

def takeTarget : List Token → Option String × List Token
  | .target type :: rest => (some type, rest)
  | rest => (none, rest)

def takeTag : List Token → Option Tag × List Token
  | .tag t :: rest => (some t, rest)
  | rest => (none, rest)

def takeTests : List Token → List Test × List Token
  | .tests ts :: rest => (ts, rest)
  | rest => ([], rest)

def ofTokens (tokens : List Token) : Except ClauseFault Shape :=
  let modifiers := leadingModifiers tokens
  if .existing ∈ modifiers then
    .error (.unsupportedQuantifier Modifier.existing.render)
  else
    let (target, afterTarget) := takeTarget (afterModifiers tokens)
    let (tag, afterTag) := takeTag afterTarget
    let (tests, rest) := takeTests afterTag
    match rest with
    | [] =>
      .ok
        { negated := modifiers.contains .negated
          subtype := modifiers.contains .subtyped
          collected := modifiers.contains .collected
          target, tag, tests }
    | extra :: _ =>
      -- A token out of place is reported with the one before it.
      .error (.unexpected extra (tokens.take (tokens.length - rest.length)).getLast?)

end Shape

def Clause.shape (c : Clause) : Except ClauseFault Shape := Shape.ofTokens c.tokens

end Antecedent
