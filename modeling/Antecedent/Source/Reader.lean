/-! Readers take a value off the front of a text, or say where and why they could not. -/

namespace Antecedent.Source

inductive Expectation where
  | value | twoOperands | regularExpression | typeName | operand | propertyPath | clause
  | ruleName | ruleBody
  deriving DecidableEq

def Expectation.render : Expectation → String
  | .value => "value"
  | .twoOperands => "two values or two @tags joined by 'and'"
  | .regularExpression => "regular expression string"
  | .typeName => "type name"
  | .operand => "operand"
  | .propertyPath => "property path"
  | .clause => "clause"
  | .ruleName => "rule name"
  | .ruleBody => "rule body"

/-- After `retry` another alternative is tried, after `abort` none is. A reader is `stalled` when a
repetition takes nothing off the text or nesting exceeds its bound. -/
inductive Severity where
  | retry | abort | stalled
  deriving DecidableEq

structure Failure where
  severity : Severity
  expected : List Expectation
  rest : List Char
  deriving DecidableEq

inductive Reply (α : Type) where
  | ok (value : α) (rest : List Char)
  | fail (failure : Failure)

def Reader (α : Type) : Type := List Char → Reply α

namespace Reader

variable {α β : Type}

def pure (a : α) : Reader α := fun s => .ok a s

def bind (p : Reader α) (f : α → Reader β) : Reader β := fun s =>
  match p s with
  | .ok a rest => f a rest
  | .fail e => .fail e

instance : Monad Reader where
  pure := pure
  bind := bind

def fail : Reader α := fun s => .fail ⟨.retry, [], s⟩

def abort : Reader α := fun s => .fail ⟨.abort, [], s⟩

def stalled : Reader α := fun s => .fail ⟨.stalled, [], s⟩

def orElse (p q : Reader α) : Reader α := fun s =>
  match p s with
  | .ok a rest => .ok a rest
  | .fail e => if e.severity = .retry then q s else .fail e

def firstOf : List (Reader α) → Reader α
  | [] => fail
  | [p] => p
  | p :: q :: rest => p.orElse (firstOf (q :: rest))

def optional (p : Reader α) : Reader (Option α) := fun s =>
  match p s with
  | .ok a rest => .ok (some a) rest
  | .fail e => if e.severity = .retry then .ok none s else .fail e

def many (p : Reader α) (s : List Char) : Reply (List α) :=
  match p s with
  | .fail e => if e.severity = .retry then .ok [] s else .fail e
  | .ok a rest =>
    if rest.length < s.length then
      match many p rest with
      | .ok as last => .ok (a :: as) last
      | .fail e => .fail e
    else .fail ⟨.stalled, [], rest⟩
termination_by s.length

def separatedBy (p : Reader α) (separator : Reader β) : Reader (List α) := do
  match ← optional p with
  | none => return []
  | some a =>
    let more ← many (do let _ ← separator; p)
    return a :: more

def commit (p : Reader α) : Reader α := fun s =>
  match p s with
  | .ok a rest => .ok a rest
  | .fail e => .fail (if e.severity = .retry then { e with severity := .abort } else e)

def expecting (what : Expectation) (p : Reader α) : Reader α := fun s =>
  match p s with
  | .ok a rest => .ok a rest
  | .fail e => .fail { e with expected := e.expected ++ [what] }

def filter (p : Reader α) (qualifies : α → Bool) : Reader α := fun s =>
  match p s with
  | .ok a rest => if qualifies a then .ok a rest else .fail ⟨.retry, [], s⟩
  | .fail e => .fail e

def literal (text : String) : Reader Unit := fun s =>
  if text.toList.isPrefixOf s then .ok () (s.drop text.length) else .fail ⟨.retry, [], s⟩

def charsOf (kind : Char → Bool) : Reader (List Char) := fun s =>
  match s with
  | [] => .fail ⟨.retry, [], []⟩
  | c :: rest =>
    if kind c then .ok (c :: rest.takeWhile kind) (rest.dropWhile kind)
    else .fail ⟨.retry, [], c :: rest⟩

def notNext (kind : Char → Bool) : Reader Unit := fun s =>
  match s with
  | [] => .ok () []
  | c :: rest => if kind c then .fail ⟨.retry, [], c :: rest⟩ else .ok () (c :: rest)

end Reader

end Antecedent.Source
