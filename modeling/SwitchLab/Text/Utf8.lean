/-!
Text from bytes that may not be well-formed UTF-8.
-/
namespace SwitchLab.Text

/-- How many bytes follow the first byte of a character, and between which bounds the first of
them lies. -/
def following (b : UInt8) : Option (Nat × UInt8 × UInt8) :=
  if 0xC2 ≤ b && b ≤ 0xDF then some (1, 0x80, 0xBF)
  else if b = 0xE0 then some (2, 0xA0, 0xBF)
  else if b = 0xED then some (2, 0x80, 0x9F)
  else if 0xE1 ≤ b && b ≤ 0xEF then some (2, 0x80, 0xBF)
  else if b = 0xF0 then some (3, 0x90, 0xBF)
  else if b = 0xF4 then some (3, 0x80, 0x8F)
  else if 0xF1 ≤ b && b ≤ 0xF3 then some (3, 0x80, 0xBF)
  else none

/-- The bytes that go on with a character, as far as they are as they should be. -/
def continuing : (count : Nat) → (low high : UInt8) → List UInt8 → List UInt8
  | 0, _, _, _ => []
  | _ + 1, _, _, [] => []
  | count + 1, low, high, b :: bs =>
    if low ≤ b && b ≤ high then b :: continuing count 0x80 0xBF bs else []

def codePoint (first : UInt8) (rest : List UInt8) : Nat :=
  let lead := match rest.length with
    | 1 => first.toNat % 32
    | 2 => first.toNat % 16
    | _ => first.toNat % 8
  rest.foldl (fun n b => 64 * n + b.toNat % 64) lead

def replacement : Char := Char.ofNat 0xFFFD

/-- Reads bytes as UTF-8. The start of a character that does not go on as it should is replaced by
one mark, and so is every byte that starts none. -/
def decodeLossy : (fuel : Nat) → List UInt8 → List Char
  | 0, _ => []
  | _ + 1, [] => []
  | fuel + 1, b :: bs =>
    if b < 0x80 then Char.ofNat b.toNat :: decodeLossy fuel bs
    else
      match following b with
      | none => replacement :: decodeLossy fuel bs
      | some (count, low, high) =>
        let rest := continuing count low high bs
        let c := if rest.length = count then Char.ofNat (codePoint b rest) else replacement
        c :: decodeLossy fuel (bs.drop rest.length)

def textOfBytes (bytes : List UInt8) : String :=
  String.ofList (decodeLossy bytes.length bytes)

def bytesOfText (s : String) : List UInt8 := s.toUTF8.toList

end SwitchLab.Text
