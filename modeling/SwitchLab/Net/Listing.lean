import SwitchLab.Pattern.Size
import SwitchLab.Text.Search
/-!
The links that a namespace lists, and which of them are left over from earlier work.
-/
namespace SwitchLab

namespace Listing

/-- A character of a link's name. -/
def isNameChar (c : Char) : Bool := !(c = ':' || c = '@' || Text.isBlank c)

/-- A character of what follows the `@`. -/
def isPeerChar (c : Char) : Bool := !(c = ':' || Text.isBlank c)

/-- After the name: a colon, or `@`, the peer and a colon. -/
def endsName : List Char → Bool
  | ':' :: _ => true
  | '@' :: cs => !(cs.takeWhile isPeerChar).isEmpty && (cs.dropWhile isPeerChar).head? = some ':'
  | _ => false

/-- The name in a line like `12: Ethernet0@eth1: <BROADCAST> ...`. -/
def nameChars? (line : List Char) : Option (List Char) :=
  let index := line.takeWhile Text.isDecimalDigit
  match line.dropWhile Text.isDecimalDigit with
  | ':' :: c :: cs =>
    let rest := cs.dropWhile Text.isBlank
    let name := rest.takeWhile isNameChar
    if !index.isEmpty && Text.isBlank c && !name.isEmpty && endsName (rest.dropWhile isNameChar)
    then some name else none
  | _ => none

end Listing

/-- The names of the links in a listing, in order. -/
def linkNames (text : String) : List String :=
  (Text.lineChars text.toList).filterMap fun line =>
    (Listing.nameChars? (Text.trimStartChars line)).map String.ofList

/-- A set of names of links. -/
inductive NamePattern where
  | exact (name : String)
  /-- The stem and a number. -/
  | numbered (stem : String)
  /-- The stem and any word characters. -/
  | extended (stem : String)
  | matching (p : Pattern)
  deriving DecidableEq, Repr

namespace NamePattern

def allows (p : NamePattern) (name : String) : Bool :=
  match p with
  | exact n => name = n
  | numbered stem =>
    (Text.afterStartChars stem.toList name.toList).any fun rest =>
      !rest.isEmpty && rest.all Text.isDecimalDigit
  | extended stem =>
    (Text.afterStartChars stem.toList name.toList).any (·.all Text.isWordChar)
  | matching p => p.matchesWithin name

end NamePattern

structure AllowList where
  patterns : List NamePattern
  deriving DecidableEq, Repr

namespace AllowList

/-- The links that a switch has from the start. -/
def default : AllowList :=
  ⟨[.exact "lo", .numbered "eth", .numbered "Ethernet", .exact "Bridge", .exact "dummy",
    .exact "docker0", .numbered "Loopback", .numbered "Vlan", .numbered "PortChannel",
    .extended "Vrf", .exact "sit0", .exact "tunl0", .exact "ip6tnl0", .exact "erspan0",
    .exact "gre0", .exact "gretap0", .extended "Vxlan"]⟩

/-- Also the names that a regular expression matches; nothing if it is malformed. -/
def withPattern? (l : AllowList) (text : String) : Option AllowList :=
  (Pattern.parse? text).map fun p => ⟨l.patterns ++ [.matching p]⟩

def allows (l : AllowList) (name : String) : Bool := l.patterns.any (·.allows name)

/-- The names that no pattern allows. -/
def leaked (l : AllowList) (names : List String) : List String := names.filter (!l.allows ·)

end AllowList

end SwitchLab
