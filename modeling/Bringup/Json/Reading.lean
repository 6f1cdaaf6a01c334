import Bringup.Json.Value
import Bringup.Text.Digits

namespace Bringup

/-! Reading JSON.

A reader takes a value from the front of a text and returns what is left. The
members of an object are kept in the order of their keys, and of a repeated key
the last value counts. Lists and objects may be nested 127 deep.

An object may stand for a value that its only member quotes: the value is then
read from the quoted text, with a depth of its own. -/

namespace Json

def depthLimit : Nat := 127

def embeddingKey : String := "$serde_json::private::RawValue"

def isBlank (character : Char) : Bool :=
  character = ' ' || character = '\n' || character = '\t' || character = '\r'

def skipBlanks (characters : List Char) : List Char := characters.dropWhile isBlank

def insertMember (key : String) (value : Json) :
    List (String × Json) → List (String × Json)
  | [] => [(key, value)]
  | (first, held) :: rest =>
      if key < first then (key, value) :: (first, held) :: rest
      else if key = first then (key, value) :: rest
      else (first, held) :: insertMember key value rest

/-! ## Texts -/

def codeUnit? : List Char → Option (Nat × List Char)
  | first :: second :: third :: fourth :: rest =>
      if [first, second, third, fourth].all Digits.isHexadecimal then
        some (Digits.value 16 [first, second, third, fourth], rest)
      else none
  | _ => none

def isLeadingUnit (unit : Nat) : Bool := 0xD800 ≤ unit && unit < 0xDC00

def isTrailingUnit (unit : Nat) : Bool := 0xDC00 ≤ unit && unit < 0xE000

/-- The character after `\u`. A leading unit needs a trailing one after it, and
neither stands alone. -/
def escapedCode? (characters : List Char) : Option (Char × List Char) := do
  let (unit, rest) ← codeUnit? characters
  if isTrailingUnit unit then failure
  if isLeadingUnit unit then
    match rest with
    | '\\' :: 'u' :: tail =>
        let (second, rest) ← codeUnit? tail
        if isTrailingUnit second then
          return (Char.ofNat (0x10000 + (unit - 0xD800) * 0x400 + (second - 0xDC00)), rest)
        else failure
    | _ => failure
  else return (Char.ofNat unit, rest)

def escaped? : List Char → Option (Char × List Char)
  | '"' :: rest => some ('"', rest)
  | '\\' :: rest => some ('\\', rest)
  | '/' :: rest => some ('/', rest)
  | 'b' :: rest => some ('\x08', rest)
  | 'f' :: rest => some ('\x0c', rest)
  | 'n' :: rest => some ('\n', rest)
  | 'r' :: rest => some ('\r', rest)
  | 't' :: rest => some ('\t', rest)
  | 'u' :: rest => escapedCode? rest
  | _ => none

/-- The characters up to the closing quote. Controls stand in no text. -/
def readCharacters : Nat → List Char → Option (List Char × List Char)
  | 0, _ => none
  | _ + 1, [] => none
  | fuel + 1, character :: rest =>
      if character = '"' then some ([], rest)
      else if character = '\\' then do
        let (value, rest) ← escaped? rest
        let (values, rest) ← readCharacters fuel rest
        return (value :: values, rest)
      else if character.toNat < 0x20 then none
      else do
        let (values, rest) ← readCharacters fuel rest
        return (character :: values, rest)

def readText (characters : List Char) : Option (String × List Char) :=
  (readCharacters (characters.length + 1) characters).map fun result =>
    (String.ofList result.1, result.2)

def readQuoted (characters : List Char) : Option (String × List Char) :=
  match skipBlanks characters with
  | '"' :: rest => readText rest
  | _ => none

def readKey (characters : List Char) : Option (String × List Char) := do
  let (key, rest) ← readQuoted characters
  match skipBlanks rest with
  | ':' :: rest => return (key, rest)
  | _ => failure

/-! ## Numbers

A number without point and exponent is exact where it fits into 64 bits. Any
other keeps as many leading digits as fit into 64 bits and is scaled by a power
of ten in at most a few rounded steps. -/

def greatestSignificand : Nat := 0xFFFFFFFFFFFFFFFF

/-- Takes digits into a significand while it fits, and counts the digits that
were taken and those that were passed over. -/
def takeDigits (significand : Nat) : List Char → Nat × Nat × Nat
  | [] => (significand, 0, 0)
  | digit :: rest =>
      let next := 10 * significand + Digits.digit digit
      if next ≤ greatestSignificand then
        let (value, taken, dropped) := takeDigits next rest
        (value, taken + 1, dropped)
      else (significand, 0, rest.length + 1)

def powerOfTen (power : Nat) : Binary64 := Binary64.ofNat (Nat.pow 10 power)

/-- The significand scaled by a power of ten; none if it is beyond every finite
number. -/
def scale (fuel : Nat) (value : Binary64) (power : Int) : Option Binary64 :=
  if power.natAbs ≤ 308 then
    if 0 ≤ power then
      let scaled := value.mul (powerOfTen power.toNat)
      if scaled.isInfinite then none else some scaled
    else some (value.div (powerOfTen power.natAbs))
  else if value.isZero then some value
  else if 0 ≤ power then none
  else
    match fuel with
    | 0 => some value
    | fuel + 1 => scale fuel (value.div (powerOfTen 308)) (power + 308)

def signed (isNegative : Bool) (value : Binary64) : Binary64 :=
  if isNegative then value.negate else value

def scaledReal? (isNegative : Bool) (significand : Nat) (power : Int) : Option Json :=
  (scale 4 (Binary64.ofNat significand) power).map fun value => real (signed isNegative value)

/-- The number after an `e`. An exponent beyond 31 bits leaves zero or nothing. -/
def readExponent (isNegative : Bool) (significand : Nat) (power : Int) (characters : List Char) :
    Option (Json × List Char) := do
  let (isDown, rest) :=
    match characters with
    | '+' :: tail => (false, tail)
    | '-' :: tail => (true, tail)
    | tail => (false, tail)
  let (digits, rest) := rest.span Digits.isDecimal
  if digits.isEmpty then failure
  let exponent := Digits.value 10 digits
  if 0x80000000 ≤ exponent then
    if significand ≠ 0 && !isDown then failure
    else return (real (signed isNegative (Binary64.zero false)), rest)
  else
    let power := if isDown then power - exponent else power + exponent
    return (← scaledReal? isNegative significand power, rest)

/-- The number after its digits before the point, where it is not exact. -/
def readScaled (isNegative : Bool) (significand : Nat) (power : Int) :
    List Char → Option (Json × List Char)
  | '.' :: tail => do
      let (digits, rest) := tail.span Digits.isDecimal
      if digits.isEmpty then failure
      let (significand, taken, _) := takeDigits significand digits
      let power := power - taken
      match rest with
      | 'e' :: tail => readExponent isNegative significand power tail
      | 'E' :: tail => readExponent isNegative significand power tail
      | rest => return (← scaledReal? isNegative significand power, rest)
  | 'e' :: tail => readExponent isNegative significand power tail
  | 'E' :: tail => readExponent isNegative significand power tail
  | rest => do return (← scaledReal? isNegative significand power, rest)

/-- A whole number if its sign leaves it in 64 bits. Negative zero is no whole
number. -/
def exact (isNegative : Bool) (magnitude : Nat) : Json :=
  if isNegative then
    if magnitude = 0 || 0x8000000000000000 < magnitude then real (Binary64.ofNat magnitude).negate
    else whole (-magnitude)
  else whole magnitude

/-- A number after its sign. No digit follows a leading zero. -/
def readNumber (isNegative : Bool) (characters : List Char) : Option (Json × List Char) := do
  let (digits, rest) := characters.span Digits.isDecimal
  match digits with
  | [] => failure
  | '0' :: _ :: _ => failure
  | digits =>
      let (significand, _, dropped) := takeDigits 0 digits
      if dropped = 0 then
        match rest with
        | '.' :: _ => readScaled isNegative significand 0 rest
        | 'e' :: _ => readScaled isNegative significand 0 rest
        | 'E' :: _ => readScaled isNegative significand 0 rest
        | rest => return (exact isNegative significand, rest)
      else readScaled isNegative significand dropped rest

/-! ## Values -/

mutual

def readValue (fuel room : Nat) (characters : List Char) : Option (Json × List Char) :=
  match fuel with
  | 0 => none
  | fuel + 1 =>
      match skipBlanks characters with
      | 'n' :: 'u' :: 'l' :: 'l' :: rest => some (null, rest)
      | 't' :: 'r' :: 'u' :: 'e' :: rest => some (flag true, rest)
      | 'f' :: 'a' :: 'l' :: 's' :: 'e' :: rest => some (flag false, rest)
      | '"' :: rest => (readText rest).map fun result => (text result.1, result.2)
      | '-' :: rest => readNumber true rest
      | '[' :: rest =>
          match room with
          | 0 => none
          | room + 1 =>
              match skipBlanks rest with
              | ']' :: rest => some (list [], rest)
              | rest => (readItems fuel room rest).map fun result => (list result.1, result.2)
      | '\x7b' :: rest =>
          match room with
          | 0 => none
          | room + 1 =>
              match skipBlanks rest with
              | '\x7d' :: rest => some (object [], rest)
              | rest => do
                  let (key, quoted) ← readKey rest
                  if key = embeddingKey then readEmbedded fuel quoted
                  else
                    let (members, rest) ← readMembers fuel room [] rest
                    return (object members, rest)
      | rest => readNumber false rest

def readEmbedded (fuel : Nat) (characters : List Char) : Option (Json × List Char) :=
  match fuel with
  | 0 => none
  | fuel + 1 => do
      let (quoted, rest) ← readQuoted characters
      let (value, trailing) ← readValue fuel depthLimit quoted.toList
      match skipBlanks trailing, skipBlanks rest with
      | [], '\x7d' :: rest => return (value, rest)
      | _, _ => failure

def readItems (fuel room : Nat) (characters : List Char) : Option (List Json × List Char) :=
  match fuel with
  | 0 => none
  | fuel + 1 => do
      let (item, rest) ← readValue fuel room characters
      match skipBlanks rest with
      | ']' :: rest => return ([item], rest)
      | ',' :: rest =>
          let (items, rest) ← readItems fuel room rest
          return (item :: items, rest)
      | _ => failure

def readMembers (fuel room : Nat) (members : List (String × Json)) (characters : List Char) :
    Option (List (String × Json) × List Char) :=
  match fuel with
  | 0 => none
  | fuel + 1 => do
      let (key, rest) ← readKey characters
      let (value, rest) ← readValue fuel room rest
      let members := insertMember key value members
      match skipBlanks rest with
      | '\x7d' :: rest => return (members, rest)
      | ',' :: rest => readMembers fuel room members rest
      | _ => failure

end

def read? (text : String) : Option Json :=
  let characters := text.toList
  match readValue (2 * characters.length + 2) depthLimit characters with
  | some (value, rest) => if (skipBlanks rest).isEmpty then some value else none
  | none => none

example : (read? " [1, \"\\ud83d\\ude00\", \x7b\"b\":null,\"a\":-0,\"b\":2e0\x7d ] ").map compact =
    some "[1,\"😀\",\x7b\"a\":-0.0,\"b\":2.0\x7d]" := by decide +kernel

example : (read? "[\x7b\"$serde_json::private::RawValue\": \" [1] \" \x7d]").map compact =
    some "[[1]]" := by decide +kernel

example : (read? "01").map compact = none ∧ (read? "[1,]").map compact = none ∧
    (read? "1 2").map compact = none := by decide +kernel

end Json

end Bringup
