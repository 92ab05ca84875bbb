import Antecedent.Pattern.Template
import Antecedent.Test.Basic

/-! The smallest parts of a compiled clause. Each binds one tag. -/

namespace Antecedent

structure Matcher where
  source : String
  foundIn : String → Bool

instance : BEq Matcher where
  beq a b := a.source == b.source

/-- The language of patterns is not fixed here. A reader of it refuses a source with a message. -/
class PatternReader where
  read : String → Except String Matcher
  source_of_read : ∀ {source m}, read source = .ok m → m.source = source

inductive AtomKind where
  | head
  | bind (path : Path)
  | equals (path : Path) (value : Value)
  | notEquals (path : Path) (value : Value)
  | compare (path : Path) (op : Comparison) (value : Value)
  | resembles (path : Path) (matcher : Matcher)
  | between (path : Path) (low high : Value)
  | isA (path : Path) (type : String)
  | reference (path : Path) (op : Operator) (tags : List Tag)
  | selfReference (path : Path) (op : Operator) (paths : List Path)
  | function (args : List Value) (predicate : Predicate)
  deriving BEq

structure Atom where
  tag : Tag
  template : Template
  kind : AtomKind
  deriving BEq

namespace AtomKind

def path? : AtomKind → Option Path
  | .head => none
  | .function _ _ => none
  | .bind path => some path
  | .equals path _ => some path
  | .notEquals path _ => some path
  | .compare path _ _ => some path
  | .resembles path _ => some path
  | .between path _ _ => some path
  | .isA path _ => some path
  | .reference path _ _ => some path
  | .selfReference path _ _ => some path

def externalTags : AtomKind → List Tag
  | .reference _ _ tags => tags
  | _ => []

def render (template : Template) : AtomKind → String
  | .head => template.render
  | .bind path => path.render
  | .equals path v => path.render ++ " == " ++ v.render
  | .notEquals path v => path.render ++ " not == " ++ v.render
  | .compare path op v => path.render ++ " " ++ op.render ++ " " ++ v.render
  | .resembles path m => path.render ++ " =~ " ++ quoted m.source
  | .between path low high => path.render ++ " between " ++ low.render ++ " and " ++ high.render
  | .isA path type => path.render ++ " is_a " ++ type
  | .reference path op tags =>
    path.render ++ " " ++ op.render ++ " ref(" ++ ", ".intercalate (tags.map Tag.render) ++ ")"
  | .selfReference path op paths =>
    path.render ++ " " ++ op.render ++ " self(" ++ ", ".intercalate (paths.map Path.render) ++ ")"
  | .function args _ => "fn(" ++ ", ".intercalate (args.map Value.render) ++ ")"

end AtomKind

namespace Atom

def isHead (a : Atom) : Bool :=
  match a.kind with
  | .head => true
  | _ => false

def render (a : Atom) : String := a.tag.render ++ " <- " ++ a.kind.render a.template

end Atom

end Antecedent
