import SwitchLab.Pattern.Syntax
import SwitchLab.Unicode.Folding
import SwitchLab.Unicode.Property
/-!
The patterns that written expressions stand for. Some expressions stand for none: their properties
are unknown, or they would match parts of characters.
-/
namespace SwitchLab.Pattern

/-- What holds for a part of an expression. -/
structure Flags where
  anyCase : Bool
  multiLine : Bool
  dotAll : Bool
  returns : Bool
  unicode : Bool
  deriving DecidableEq, Repr

namespace Flags

def initial : Flags := ⟨false, false, false, false, true⟩

def changed (f : Flags) (change : FlagChange) : Flags :=
  ⟨change.value .anyCase f.anyCase, change.value .multiLine f.multiLine,
    change.value .dotAll f.dotAll, change.value .returns f.returns,
    change.value .unicode f.unicode⟩

end Flags

/-! ## Sets of characters -/

def asciiLower : CharSet := .range 0x61 0x7A
def asciiUpper : CharSet := .range 0x41 0x5A

/-- The set with the other case of each ASCII letter in it. -/
def foldAscii (s : CharSet) : CharSet :=
  .unions [s, ⟨(s.inter asciiUpper).ranges.map fun (low, high) => (low + 32, high + 32)⟩,
    ⟨(s.inter asciiLower).ranges.map fun (low, high) => (low - 32, high - 32)⟩]

/-- The set with the other cases of its characters, if case is disregarded. -/
def Flags.folded (f : Flags) (s : CharSet) : CharSet :=
  if !f.anyCase then s else if f.unicode then Unicode.foldCase s else foldAscii s

/-- The complement, if it is asked for. Among bytes it would have parts of characters in it. -/
def Flags.negated? (f : Flags) (negated : Bool) (s : CharSet) : Option CharSet :=
  if !negated then some s else if f.unicode then some s.complement else none

def asciiBlanks : CharSet := ⟨[(0x9, 0xD), (0x20, 0x20)]⟩
def asciiDigits : CharSet := .range 0x30 0x39
def asciiWord : CharSet := .unions [asciiDigits, asciiUpper, .single '_', asciiLower]

def Shorthand.set (unicode : Bool) : Shorthand → CharSet
  | digit => if unicode then Text.decimalDigits else asciiDigits
  | blank => if unicode then Unicode.listed "White_Space" else asciiBlanks
  | word => if unicode then Text.wordCharacters else asciiWord

/-- The characters with a property. -/
def propertySet? (name : String) (value : Option String) : Option CharSet :=
  match value with
  | none => Unicode.property? name
  | some value => Unicode.propertyValue? name value

/-- A character that stands in brackets; among bytes it is a byte. -/
def Flags.inBrackets? (f : Flags) (l : Literal) : Option Char :=
  if f.unicode || l.char.toNat < 0x80 then some l.char else none

/-- A character that stands outside brackets; a byte that begins no character matches none. -/
def Flags.outside? (f : Flags) (l : Literal) : Option Char :=
  if f.unicode || l.char.toNat < 0x80 || !l.isByte then some l.char else none

/-- The set of a symbol in brackets. -/
def Symbol.set? (f : Flags) : Symbol → Option CharSet
  | literal l => (f.inBrackets? l).map .single
  | shorthand s negated => f.negated? negated (s.set f.unicode)
  | property name value negated => do
    if f.unicode then f.negated? negated (f.folded (← propertySet? name value)) else none

def SetOperation.apply : SetOperation → CharSet → CharSet → CharSet
  | inter => .inter
  | diff => .diff
  | symmDiff => .symmDiff

/-- The set of what stands in brackets. -/
def ClassExpr.set? (f : Flags) : ClassExpr → Option CharSet
  | empty => some .empty
  | symbol s => s.set? f
  | range low high => do
    return .range (← f.inBrackets? low).toNat (← f.inBrackets? high).toNat
  | ascii set negated => f.negated? negated (f.folded set)
  | nested a negated => do f.negated? negated (f.folded (← a.set? f))
  | union a b => do return (← a.set? f).union (← b.set? f)
  | operation o a b => do return o.apply (f.folded (← a.set? f)) (f.folded (← b.set? f))

/-! ## Patterns -/

def Assertion.meaning (f : Flags) : Assertion → Look
  | lineStart => if f.multiLine then .lineStart f.returns else .textStart
  | lineEnd => if f.multiLine then .lineEnd f.returns else .textEnd
  | textStart => .textStart
  | textEnd => .textEnd
  | word edge => .word edge !f.unicode

def lineEnds (f : Flags) : CharSet :=
  if f.dotAll then .empty
  else if f.returns then .union (.single '\n') (.single '\r')
  else .single '\n'

def Atom.meaning? (f : Flags) : Atom → Option Pattern
  | symbol (.literal l) => (f.outside? l).map fun c => .one (f.folded (.single c))
  | symbol s => (s.set? f).map .one
  | dot => (f.negated? true (lineEnds f)).map .one
  | assertion a => some (.look (a.meaning f))

/-- The flags inside a group. -/
def GroupHead.flags (f : Flags) : GroupHead → Flags
  | unnumbered change => f.changed change
  | _ => f

def GroupHead.meaning (p : Pattern) : GroupHead → Pattern
  | unnumbered _ => p
  | _ => .group p

/-- The patterns of an expression's alternatives, and the flags that hold after it. -/
def Expr.branches? (f : Flags) : Expr → Option (List Pattern × Flags)
  | empty => some ([.empty], f)
  | flags change => some ([.empty], f.changed change)
  | atom a => do return ([← a.meaning? f], f)
  | bracketed c negated => do
    return ([.one (← f.negated? negated (f.folded (← c.set? f)))], f)
  | repeated a least most => do
    let (ps, f) ← a.branches? f
    return ([(anyOf ps).times least most], f)
  | group head a => do
    let (ps, _) ← a.branches? (head.flags f)
    return ([head.meaning (anyOf ps)], f)
  | seq a b => do
    let (ps, f) ← a.branches? f
    let (qs, f) ← b.branches? f
    return ([(anyOf ps).followedBy (anyOf qs)], f)
  | alt a b => do
    let (ps, f) ← a.branches? f
    let (qs, f) ← b.branches? f
    return (ps ++ qs, f)

/-- The pattern that an expression stands for. -/
def Expr.meaning? (e : Expr) : Option Pattern := do
  let (ps, _) ← e.branches? .initial
  return anyOf ps

end SwitchLab.Pattern
