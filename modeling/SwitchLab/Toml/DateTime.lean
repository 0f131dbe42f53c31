import SwitchLab.Text.Decimal
/-!
Dates and times: how they are read, and the one form in which each is written.
-/
namespace SwitchLab.Toml

structure Date where
  year : Nat
  month : Nat
  day : Nat
  deriving DecidableEq, Repr

structure Time where
  hour : Nat
  minute : Nat
  second : Nat
  nanosecond : Nat
  deriving DecidableEq, Repr

/-- The distance from universal time. -/
inductive Offset where
  | zulu
  | minutes (isWest : Bool) (count : Nat)
  deriving DecidableEq, Repr

/-- A date, a time, or both; an offset only with both. -/
inductive DateTime where
  | date (d : Date)
  | time (t : Time)
  | both (d : Date) (t : Time) (offset : Option Offset)
  deriving DecidableEq, Repr

/-! Writing. -/

def twoDigits (n : Nat) : String := Text.padZeros 2 (toString n)

def Date.text (d : Date) : String :=
  s!"{Text.padZeros 4 (toString d.year)}-{twoDigits d.month}-{twoDigits d.day}"

/-- The fraction of a second, without zeros at its end. -/
def fractionText (nanosecond : Nat) : String :=
  if nanosecond = 0 then ""
  else
    let digits := (Text.padZeros 9 (toString nanosecond)).toList
    String.ofList ('.' :: (digits.reverse.dropWhile (· = '0')).reverse)

def Time.text (t : Time) : String :=
  s!"{twoDigits t.hour}:{twoDigits t.minute}:{twoDigits t.second}{fractionText t.nanosecond}"

def Offset.text : Offset → String
  | zulu => "Z"
  | minutes isWest count =>
    let sign := if isWest && count ≠ 0 then "-" else "+"
    s!"{sign}{twoDigits (count / 60)}:{twoDigits (count % 60)}"

def DateTime.text : DateTime → String
  | date d => d.text
  | time t => t.text
  | both d t offset => s!"{d.text}T{t.text}" ++ (offset.map Offset.text).getD ""

/-! Reading. -/

/-- Exactly `count` digits and what follows them. -/
def fixedDigits? (count : Nat) (cs : List Char) : Option (Nat × List Char) :=
  let digits := cs.take count
  if digits.length = count && digits.all Char.isDigit then
    some (Text.natOfDigits digits, cs.drop count)
  else none

def expect? (c : Char) : List Char → Option (List Char)
  | d :: cs => if c = d then some cs else none
  | [] => none

def daysOf (year month : Nat) : Nat :=
  if month = 2 then
    if (year % 4 = 0 && year % 100 ≠ 0) || year % 400 = 0 then 29 else 28
  else if [4, 6, 9, 11].contains month then 30
  else 31

def date? (cs : List Char) : Option (Date × List Char) := do
  let (year, cs) ← fixedDigits? 4 cs
  let (month, cs) ← fixedDigits? 2 (← expect? '-' cs)
  let (day, cs) ← fixedDigits? 2 (← expect? '-' cs)
  if 1 ≤ month && month ≤ 12 && 1 ≤ day && day ≤ daysOf year month then
    some (⟨year, month, day⟩, cs)
  else none

/-- The digits after a decimal point as nanoseconds; those after the ninth do not count. -/
def fraction? : List Char → Option (Nat × List Char)
  | '.' :: cs =>
    let digits := cs.takeWhile Char.isDigit
    if digits.isEmpty then none
    else
      let nine := (digits ++ List.replicate 9 '0').take 9
      some (Text.natOfDigits nine, cs.dropWhile Char.isDigit)
  | cs => some (0, cs)

/-- The seconds of a time and their fraction, which may be left out. -/
def seconds? : List Char → Option (Nat × Nat × List Char)
  | ':' :: cs => do
    let (second, cs) ← fixedDigits? 2 cs
    let (nanosecond, cs) ← fraction? cs
    if second ≤ 60 then some (second, nanosecond, cs) else none
  | cs => some (0, 0, cs)

def time? (cs : List Char) : Option (Time × List Char) := do
  let (hour, cs) ← fixedDigits? 2 cs
  let (minute, cs) ← fixedDigits? 2 (← expect? ':' cs)
  let (second, nanosecond, cs) ← seconds? cs
  if hour ≤ 23 && minute ≤ 59 then some (⟨hour, minute, second, nanosecond⟩, cs) else none

/-- The whole of a text as an offset; nothing at all is none. -/
def offset? : List Char → Option (Option Offset)
  | [] => some none
  | ['Z'] | ['z'] => some (some .zulu)
  | c :: cs => do
    let (hour, cs) ← fixedDigits? 2 cs
    let (minute, cs) ← fixedDigits? 2 (← expect? ':' cs)
    if (c = '+' || c = '-') && cs.isEmpty && hour ≤ 23 && minute ≤ 59 then
      some (some (.minutes (c = '-') (60 * hour + minute)))
    else none

def DateTime.ofChars? (text : List Char) : Option DateTime :=
  match date? text with
  | some (d, []) => some (.date d)
  | some (d, c :: cs) => do
    if c = 'T' || c = 't' || c = ' ' then
      let (t, rest) ← time? cs
      return .both d t (← offset? rest)
    else none
  | none => do
    let (t, rest) ← time? text
    if rest.isEmpty then some (.time t) else none

end SwitchLab.Toml
