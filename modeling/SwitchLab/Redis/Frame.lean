import SwitchLab.Redis.Reply
import SwitchLab.Text.Blank
import SwitchLab.Text.Utf8
/-!
Replies as bytes.
-/
namespace SwitchLab.Redis

def carriageReturn : UInt8 := 13
def lineFeed : UInt8 := 10

/-- The bytes up to the next line end, and those after it. -/
def splitLine : Bytes → Option (Bytes × Bytes)
  | a :: b :: rest =>
    if a = carriageReturn && b = lineFeed then some ([], rest)
    else (splitLine (b :: rest)).map fun (line, after) => (a :: line, after)
  | _ => none

/-- What reading bytes comes to: a reply and the bytes after it, not enough bytes, or bytes that
are no reply. -/
inductive Parsed (α : Type) where
  | done (value : α) (rest : Bytes)
  | partly
  | malformed

/-- An integer of 64 bits, with blanks around it. -/
def integerOf? (line : Bytes) : Option Int := do
  let text ← textOf? line
  let (isNegative, digits) := Binary64.signOf (Text.trim text).toList
  let n ← Text.natOfChars? digits
  let n : Int := if isNegative then -(n : Int) else n
  if -(Text.wordSize 63 : Int) ≤ n && n < Text.wordSize 63 then some n else none

def doubleOf? (line : Bytes) : Option Binary64 :=
  (textOf? line).bind fun text => Binary64.ofText? (Text.trim text)

/-- Digits of an integer of any size: a sign in front, and bars after the first of them. -/
def isBigInteger (line : Bytes) : Bool :=
  match textOf? line with
  | none => false
  | some text =>
    let digits := match text.toList with
      | '-' :: '+' :: _ => []
      | '-' :: cs => cs
      | cs => Text.dropPlus cs
    !digits.isEmpty && digits.head? ≠ some '_' && digits.all fun c => c.isDigit || c = '_'

def lineOf (bytes : Bytes) (make : Bytes → Option Reply) : Parsed Reply :=
  match splitLine bytes with
  | none => .partly
  | some (line, rest) =>
    match make line with
    | some reply => .done reply rest
    | none => .malformed

/-- A line that stands for one of the replies of which no value is made. -/
def otherIf (isRight : Bool) : Option Reply := if isRight then some .other else none

/-- As many bytes as the line before them says. A number below zero says `onNegative`. -/
def sized (bytes : Bytes) (onNegative : Bytes → Parsed Reply) (make : Bytes → Option Reply) :
    Parsed Reply :=
  match splitLine bytes with
  | none => .partly
  | some (line, rest) =>
    match integerOf? line with
    | none => .malformed
    | some n =>
      if n < 0 then onNegative rest
      else if rest.length < n.toNat + 2 then .partly
      else if (rest.drop n.toNat).take 2 = [carriageReturn, lineFeed] then
        match make (rest.take n.toNat) with
        | some reply => .done reply (rest.drop (n.toNat + 2))
        | none => .malformed
      else .malformed

/-- Text after the name of its format and a colon. -/
def verbatimOf? (bytes : Bytes) : Option Reply :=
  (Text.splitFirst? ':' (Text.textOfBytes bytes)).map fun (_, text) => .verbatim text

/-- Replies that are made of others. -/
inductive Group where
  | array
  | map
  | annotated
  | push
  deriving DecidableEq, Repr

namespace Group

/-- What a count says: the reply itself, or how many others it is made of. -/
def expected? (g : Group) (count : Int) : Option (Reply ⊕ Nat) :=
  match g with
  | array => some (if count < 0 then .inl .nil else .inr count.toNat)
  | map => if count < 0 then none else some (.inr (2 * count.toNat))
  | annotated => if count < 0 then none else some (.inr (2 * count.toNat + 1))
  | push => some (if count ≤ 0 then .inl (.push "" []) else .inr count.toNat)

/-- The kind of something pushed. -/
def kindOf? : Reply → Option String
  | .bulk bytes => textOf? bytes
  | .simple text => if text = "OK" then none else some text
  | _ => none

def make? (g : Group) (items : List Reply) : Option Reply :=
  match g with
  | array => some (.array items)
  | map => some (.map items)
  | annotated => items.getLast?.map (.annotated items.dropLast)
  | push =>
    match items with
    | kind :: items => (kindOf? kind).map fun kind => .push kind items
    | [] => none

end Group

/-- How deep arrays may stand in other replies. -/
def deepest : Nat := 100

mutual

/-- The first reply in the bytes. -/
def parseReply : (fuel depth : Nat) → Bytes → Parsed Reply
  | 0, _, _ => .partly
  | _ + 1, _, [] => .partly
  | fuel + 1, depth, kind :: bytes =>
    match Char.ofNat kind.toNat with
    | '+' => lineOf bytes fun line => (textOf? line).map .simple
    | '-' => lineOf bytes fun line => (textOf? line).map .failure
    | ':' => lineOf bytes fun line => (integerOf? line).map .integer
    | '_' => lineOf bytes fun line => (textOf? line).map fun _ => .nil
    | '#' => lineOf bytes fun line => otherIf (textOf? line = some "t" || textOf? line = some "f")
    | ',' => lineOf bytes fun line => (doubleOf? line).map .double
    | '(' => lineOf bytes fun line => otherIf (isBigInteger line)
    | '$' => sized bytes (.done .nil) fun text => some (.bulk text)
    | '!' => sized bytes (fun _ => .partly) fun text => some (.failure (Text.textOfBytes text))
    | '=' => sized bytes (fun _ => .partly) verbatimOf?
    | '*' => if deepest < depth then .malformed else parseGroup fuel depth .array bytes
    | '~' => parseGroup fuel depth .array bytes
    | '%' => parseGroup fuel depth .map bytes
    | '|' => parseGroup fuel depth .annotated bytes
    | '>' => parseGroup fuel depth .push bytes
    | _ => .malformed

/-- A group of replies after the mark of its kind. -/
def parseGroup : (fuel depth : Nat) → Group → Bytes → Parsed Reply
  | 0, _, _, _ => .partly
  | fuel + 1, depth, g, bytes =>
    match splitLine bytes with
    | none => .partly
    | some (line, rest) =>
      match (integerOf? line).bind g.expected? with
      | none => .malformed
      | some (.inl reply) => .done reply rest
      | some (.inr count) =>
        match parseItems fuel (depth + 1) rest count with
        | .partly => .partly
        | .malformed => .malformed
        | .done items rest =>
          match g.make? items with
          | some reply => .done reply rest
          | none => .malformed

def parseItems : (fuel depth : Nat) → Bytes → (count : Nat) → Parsed (List Reply)
  | _, _, bytes, 0 => .done [] bytes
  | 0, _, _, _ + 1 => .partly
  | fuel + 1, depth, bytes, count + 1 =>
    match parseReply fuel depth bytes with
    | .partly => .partly
    | .malformed => .malformed
    | .done item rest =>
      match parseItems fuel depth rest count with
      | .done items rest => .done (item :: items) rest
      | .partly => .partly
      | .malformed => .malformed

end

def parse (bytes : Bytes) : Parsed Reply := parseReply (2 * bytes.length + 2) 1 bytes

/-! Taking replies out of the bytes that have come. -/

/-- The next reply that was asked for. -/
def nextAnswer : (fuel : Nat) → Bytes → Parsed Reply
  | 0, _ => .partly
  | fuel + 1, bytes =>
    match parse bytes with
    | .done (.push _ _) rest => nextAnswer fuel rest
    | parsed => parsed

/-- The next notice among the bytes that have come, if there is one, and the bytes after it. -/
def nextNotice : (fuel : Nat) → Bytes → Except Fault (Option Notification) × Bytes
  | 0, bytes => (.ok none, bytes)
  | fuel + 1, bytes =>
    match parse bytes with
    | .partly => (.ok none, bytes)
    | .malformed => (.error broken, [])
    | .done reply rest =>
      match reply.notification with
      | .ok none => nextNotice fuel rest
      | result => (result, rest)

end SwitchLab.Redis
