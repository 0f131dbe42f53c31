import SwitchLab.Pattern.Basic
/-!
Regular expressions as they are written, before flags give them their meaning.
-/
namespace SwitchLab.Pattern

/-! ## Flags -/

inductive Flag where
  | anyCase
  | multiLine
  | dotAll
  | swapGreed
  | unicode
  | returns
  /-- Blanks in the pattern mean nothing, and `#` begins a comment. -/
  | spaced
  deriving DecidableEq, Repr

/-- Flags that are set and flags that are cleared. -/
structure FlagChange where
  on : List Flag
  off : List Flag
  deriving DecidableEq, Repr

/-- What the change makes of one flag. -/
def FlagChange.value (change : FlagChange) (flag : Flag) (before : Bool) : Bool :=
  if change.on.contains flag then true else if change.off.contains flag then false else before

/-! ## Characters and classes -/

structure Literal where
  char : Char
  /-- Written as `\x` with two digits, it names a byte wherever bytes alone count. -/
  isByte : Bool
  deriving DecidableEq, Repr

inductive Shorthand where
  | digit
  | blank
  | word
  deriving DecidableEq, Repr

/-- A character or a class with a name; it may stand in brackets and outside them. -/
inductive Symbol where
  | literal (l : Literal)
  | shorthand (s : Shorthand) (negated : Bool)
  /-- A property, or a property that has a value. -/
  | property (name : String) (value : Option String) (negated : Bool)
  deriving DecidableEq, Repr

inductive SetOperation where
  | inter
  | diff
  | symmDiff
  deriving DecidableEq, Repr

/-- What stands in brackets. -/
inductive ClassExpr where
  | empty
  | symbol (s : Symbol)
  | range (low high : Literal)
  | ascii (set : CharSet) (negated : Bool)
  | nested (a : ClassExpr) (negated : Bool)
  | union (a b : ClassExpr)
  | operation (o : SetOperation) (a b : ClassExpr)
  deriving DecidableEq, Repr

/-- One item more. -/
def ClassExpr.also : ClassExpr → ClassExpr → ClassExpr
  | empty, b => b
  | a, b => union a b

/-! ## Expressions -/

inductive Assertion where
  | lineStart
  | lineEnd
  | textStart
  | textEnd
  | word (edge : WordEdge)
  deriving DecidableEq, Repr

inductive Atom where
  | symbol (s : Symbol)
  | dot
  | assertion (a : Assertion)
  deriving DecidableEq, Repr

inductive GroupHead where
  | numbered
  | named (name : String)
  | unnumbered (change : FlagChange)
  deriving DecidableEq, Repr

inductive Expr where
  | empty
  /-- The change holds for the rest of the group. -/
  | flags (change : FlagChange)
  | atom (a : Atom)
  | bracketed (c : ClassExpr) (negated : Bool)
  | repeated (a : Expr) (least : Nat) (most : Option Nat)
  | group (head : GroupHead) (a : Expr)
  | seq (a b : Expr)
  | alt (a b : Expr)
  deriving DecidableEq, Repr

namespace Expr

/-- One expression before others. -/
def andThen : Expr → Expr → Expr
  | empty, b => b
  | a, b => seq a b

/-- Only something that stands there itself can be repeated. -/
def isRepeatable : Expr → Bool
  | empty | flags _ => false
  | _ => true

/-- The names of the groups, in order. -/
def groupNames : Expr → List String
  | group (.named name) a => name :: a.groupNames
  | repeated a _ _ | group _ a => a.groupNames
  | seq a b | alt a b => a.groupNames ++ b.groupNames
  | _ => []

end Expr

/-! ## Depth -/

/-- The kind of list that an expression is an item of. -/
inductive Row where
  | none
  | seq
  | alt
  deriving DecidableEq, Repr

def ClassExpr.depth (inUnion : Bool) : ClassExpr → Nat
  | nested a _ => a.depth false + 1
  | union a b => max (a.depth true) (b.depth true) + if inUnion then 0 else 1
  | operation _ a b => max (a.depth false) (b.depth false) + 1
  | _ => 0

/-- How deep expressions are nested. The items of a list are all one level below it. -/
def Expr.depth (row : Row) : Expr → Nat
  | bracketed c _ => c.depth false + 1
  | repeated a _ _ | group _ a => a.depth .none + 1
  | seq a b => max (a.depth .seq) (b.depth .seq) + if row = .seq then 0 else 1
  | alt a b => max (a.depth .alt) (b.depth .alt) + if row = .alt then 0 else 1
  | _ => 0

end SwitchLab.Pattern
