import Bringup.Text.Digits

namespace Bringup

/-! Text as bytes: the encoding of characters in one to four bytes, its two
readers, and percent signs that stand for bytes.

The strict reader refuses a malformed sequence. The lenient one puts one
replacement character in place of each longest malformed piece. -/

namespace Bytes

def replacement : Char := '\ufffd'

/-- The shape that a leading byte announces: how many bytes follow, the range of
the first of them, and the leading byte's own bits. -/
def shape? (lead : UInt8) : Option (Nat × UInt8 × UInt8 × Nat) :=
  if 0xC2 ≤ lead ∧ lead ≤ 0xDF then some (1, 0x80, 0xBF, lead.toNat - 0xC0)
  else if lead = 0xE0 then some (2, 0xA0, 0xBF, 0)
  else if lead = 0xED then some (2, 0x80, 0x9F, 0xD)
  else if 0xE1 ≤ lead ∧ lead ≤ 0xEF then some (2, 0x80, 0xBF, lead.toNat - 0xE0)
  else if lead = 0xF0 then some (3, 0x90, 0xBF, 0)
  else if 0xF1 ≤ lead ∧ lead ≤ 0xF3 then some (3, 0x80, 0xBF, lead.toNat - 0xF0)
  else if lead = 0xF4 then some (3, 0x80, 0x8F, 4)
  else none

/-- The longest valid continuation of a leading byte: how many bytes it covers
and the code they spell. -/
def follow : Nat → UInt8 → UInt8 → Nat → List UInt8 → Nat × Nat
  | 0, _, _, code, _ => (0, code)
  | _ + 1, _, _, code, [] => (0, code)
  | count + 1, low, high, code, byte :: rest =>
      if low ≤ byte ∧ byte ≤ high then
        let (covered, code) := follow count 0x80 0xBF (64 * code + (byte.toNat - 0x80)) rest
        (covered + 1, code)
      else (0, code)

/-- The characters of a byte sequence, `none` in place of each malformed piece.
The counter is the number of bytes already used by the current character. -/
def pieces : Nat → List UInt8 → List (Option Char)
  | _, [] => []
  | skip + 1, _ :: rest => pieces skip rest
  | 0, byte :: rest =>
      if byte < 0x80 then some (Char.ofNat byte.toNat) :: pieces 0 rest
      else
        match shape? byte with
        | none => none :: pieces 0 rest
        | some (count, low, high, bits) =>
            let (covered, code) := follow count low high bits rest
            (if covered = count then some (Char.ofNat code) else none) :: pieces covered rest

def decode? (bytes : List UInt8) : Option String :=
  ((pieces 0 bytes).mapM id).map String.ofList

def decodeLenient (bytes : List UInt8) : String :=
  String.ofList ((pieces 0 bytes).map fun piece => piece.getD replacement)

def encode (text : String) : List UInt8 := text.toUTF8.toList

/-- Two hexadecimal digits after each percent sign become one byte; a percent
sign that no two digits follow stands for itself. -/
def ofPercent : List Char → List UInt8
  | [] => []
  | '%' :: first :: second :: rest =>
      if Digits.isHexadecimal first && Digits.isHexadecimal second then
        (Digits.value 16 [first, second]).toUInt8 :: ofPercent rest
      else 0x25 :: ofPercent (first :: second :: rest)
  | character :: rest => encode (String.singleton character) ++ ofPercent rest

/-- The characters for which `escaped` holds, byte by byte as percent signs with
two upper-case digits. -/
def toPercent (escaped : Char → Bool) (text : String) : String :=
  String.ofList (text.toList.flatMap fun character =>
    if escaped character then
      (encode (String.singleton character)).flatMap fun byte =>
        '%' :: (Nat.toDigits 16 (byte.toNat + 0x100)).tail.map Char.toUpper
    else [character])

example : decode? [0xC3, 0xA9] = some "é" ∧ decode? [0xC3] = none ∧ decode? [0xED, 0xA0, 0x80] = none := by
  decide +kernel

example : decodeLenient [0x7B, 0xE2, 0x82, 0x7D] = "\x7b\ufffd\x7d" := by decide +kernel

end Bytes

end Bringup
