import SwitchLab.Text.CharSet
/-!
The UTF-8 forms of sets of characters, as sequences of ranges of bytes.
-/
namespace SwitchLab.Pattern

/-- One range for each byte: any bytes out of them make up a character together. -/
abbrev Form := List (Nat × Nat)

/-- The forms of the numbers from `low` to `high`, as a first byte from `mark` on and `more` bytes
with six bits each. -/
def formsFrom (mark : Nat) : (more : Nat) → (low high : Nat) → List Form
  | 0, low, high => [[(mark + low, mark + high)]]
  | more + 1, low, high =>
    let block := Nat.pow 64 (more + 1)
    let first := low / block
    let last := high / block
    let under (n : Nat) := (mark + n, mark + n)
    if first = last then
      (formsFrom 0x80 more (low % block) (high % block)).map (under first :: ·)
    else
      let headCut := low % block ≠ 0
      let tailCut := high % block ≠ block - 1
      let whole := (if headCut then first + 1 else first, if tailCut then last - 1 else last)
      (if headCut then (formsFrom 0x80 more (low % block) (block - 1)).map (under first :: ·)
        else []) ++
      (if whole.1 ≤ whole.2 then
        [(mark + whole.1, mark + whole.2) :: List.replicate (more + 1) (0x80, 0xBF)] else []) ++
      (if tailCut then (formsFrom 0x80 more 0 (high % block)).map (under last :: ·) else [])

/-- Code points whose forms have the same number of bytes. -/
structure FormLength where
  low : Nat
  high : Nat
  mark : Nat
  more : Nat

/-- Surrogates have no form. -/
def formLengths : List FormLength :=
  [⟨0, 0x7F, 0, 0⟩, ⟨0x80, 0x7FF, 0xC0, 1⟩, ⟨0x800, 0xD7FF, 0xE0, 2⟩, ⟨0xE000, 0xFFFF, 0xE0, 2⟩,
   ⟨0x10000, 0x10FFFF, 0xF0, 3⟩]

/-- The forms of a set, in rising order. -/
def forms (s : CharSet) : List Form :=
  s.ranges.flatMap fun (low, high) =>
    formLengths.flatMap fun l =>
      let low := max low l.low
      let high := min high l.high
      if low ≤ high then formsFrom l.mark l.more low high else []

/-- Forms put together by their first ranges: what can follow each of them. -/
def byFirst : List Form → List ((Nat × Nat) × List Form)
  | [] => []
  | [] :: rest => byFirst rest
  | (r :: form) :: rest =>
    match byFirst rest with
    | (r', follow) :: groups =>
      if r = r' then (r, form :: follow) :: groups else (r, [form]) :: (r', follow) :: groups
    | [] => [(r, [form])]

/-- All that can be left of the forms while they are read, as long as bytes are left. -/
def remainders : (fuel : Nat) → List Form → List (List Form)
  | 0, _ => []
  | fuel + 1, fs =>
    match byFirst fs with
    | [] => []
    | groups => fs :: groups.flatMap fun (_, follow) => remainders fuel follow

end SwitchLab.Pattern
