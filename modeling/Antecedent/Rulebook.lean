import Antecedent.Rule.Compile
import Antecedent.Source.Rules

/-! A collection of compiled rules that grows by whole definitions and whole texts. -/

namespace Antecedent

structure ReadFault where
  kind : String
  detail : String

inductive LoadFault where
  | unreadable (fault : ReadFault)
  | unparsed (error : Source.SyntaxError)
  | refused (fault : CompileFault)

structure Rulebook (α : Type) where
  rules : List (Rule α)
  limits : Limits

structure LoadReport (α : Type) where
  result : Except LoadFault Nat
  actions : List α

variable {σ α : Type} [PatternReader]

/-- Finds the action of a definition, and may remember what it was asked before. -/
abbrev Supplier (σ α : Type) : Type := Definition → σ → α × σ

def Supplier.recording (actionFor : Definition → α) : Supplier (List α) α :=
  fun d actions => (actionFor d, actions ++ [actionFor d])

def compileAll (limits : Limits) (supplier : Supplier σ α) :
    List Definition → σ → Except CompileFault (List (Rule α)) × σ
  | [], memory => (.ok [], memory)
  | d :: ds, memory =>
    -- The action is asked for even if the definition turns out to be refused.
    let (action, memory) := supplier d memory
    match d.compile limits action with
    | .error fault => (.error fault, memory)
    | .ok rules =>
      let (rest, memory) := compileAll limits supplier ds memory
      (rest.map (rules ++ ·), memory)

namespace Rulebook

def new (limits : Limits) : Rulebook α := ⟨[], limits⟩

def add (book : Rulebook α) (rules : List (Rule α)) : Rulebook α :=
  { book with rules := book.rules ++ rules }

def withLimits (book : Rulebook α) (limits : Limits) : Rulebook α := { book with limits }

def clear (book : Rulebook α) : Rulebook α := { book with rules := [] }

def define (book : Rulebook α) (d : Definition) (action : α) :
    Except CompileFault Nat × Rulebook α :=
  match d.compile book.limits action with
  | .ok rules => (.ok rules.length, book.add rules)
  | .error fault => (.error fault, book)

def rule (book : Rulebook α) (name : String) (priority : Option Int32)
    (conditions : List Condition) (action : α) : Except CompileFault Nat × Rulebook α :=
  book.define ⟨name, priority, conditions⟩ action

def loadText (book : Rulebook α) (text : String) (supplier : Supplier σ α) (memory : σ) :
    Except LoadFault Nat × σ × Rulebook α :=
  match Source.parse text with
  | .error e => (.error (.unparsed e), memory, book)
  | .ok ds =>
    match compileAll book.limits supplier ds memory with
    | (.ok rules, memory) => (.ok rules.length, memory, book.add rules)
    | (.error fault, memory) => (.error (.refused fault), memory, book)

def loadRead (book : Rulebook α) (outcome : Except ReadFault String) (supplier : Supplier σ α)
    (memory : σ) : Except LoadFault Nat × σ × Rulebook α :=
  match outcome with
  | .error fault => (.error (.unreadable fault), memory, book)
  | .ok text => book.loadText text supplier memory

def load (book : Rulebook α) (text : String) (actionFor : Definition → α) :
    LoadReport α × Rulebook α :=
  let (result, actions, book) := book.loadText text (.recording actionFor) []
  (⟨result, actions⟩, book)

def loadFile (book : Rulebook α) (outcome : Except ReadFault String)
    (actionFor : Definition → α) : LoadReport α × Rulebook α :=
  let (result, actions, book) := book.loadRead outcome (.recording actionFor) []
  (⟨result, actions⟩, book)

end Rulebook

end Antecedent
