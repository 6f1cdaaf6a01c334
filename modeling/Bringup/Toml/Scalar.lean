import Bringup.Toml.Moment
import Bringup.Number.Reading

namespace Bringup

/-! Strings, numbers and the other values without parts. -/

namespace Toml

def isBlank (character : Char) : Bool := character = ' ' || character = '\t'

def isCommentCharacter (character : Char) : Bool :=
  character = '\t' || (0x20 ≤ character.toNat && character.toNat ≠ 0x7F)

def isBasicCharacter (character : Char) : Bool :=
  isCommentCharacter character && character ≠ '"' && character ≠ '\\'

def isLiteralCharacter (character : Char) : Bool :=
  isCommentCharacter character && character ≠ '\''

def skipBlank (characters : List Char) : List Char := characters.dropWhile isBlank

def lineBreak? : List Char → Option (List Char)
  | '\n' :: rest => some rest
  | '\r' :: '\n' :: rest => some rest
  | _ => none

/-! ## Strings -/

namespace Strings

private def escapes : List (Char × Char) :=
  [('b', '\x08'), ('f', '\x0c'), ('n', '\n'), ('r', '\r'), ('t', '\t'), ('"', '"'), ('\\', '\\')]

def ofCode? (digits : List Char) : Option Char :=
  let code := Digits.value 16 digits
  if digits.all Digits.isHexadecimal ∧ (code < 0xD800 ∨ (0xDFFF < code ∧ code < 0x110000)) then
    some (Char.ofNat code)
  else none

private def escapeFault (rest : List Char) : Except Fault (List Char × List Char) :=
  .error {
    rest
    construct := some "escape sequence"
    expected := ["\x60b\x60", "\x60f\x60", "\x60n\x60", "\x60r\x60", "\x60t\x60", "\x60u\x60",
      "\x60U\x60", "\x60\\\x60", "\x60\"\x60"] }

def basicBody : Reader (List Char)
  | '"' :: rest => .ok ([], rest)
  | '\\' :: 'u' :: a :: b :: c :: d :: rest =>
      match ofCode? [a, b, c, d] with
      | some character => (basicBody rest).map fun (body, left) => (character :: body, left)
      | none => within "unicode 4-digit hex code" (faultAt (a :: b :: c :: d :: rest))
  | '\\' :: 'U' :: a :: b :: c :: d :: e :: f :: g :: h :: rest =>
      match ofCode? [a, b, c, d, e, f, g, h] with
      | some character => (basicBody rest).map fun (body, left) => (character :: body, left)
      | none => within "unicode 8-digit hex code"
          (faultAt (a :: b :: c :: d :: e :: f :: g :: h :: rest))
  | '\\' :: letter :: rest =>
      match escapes.lookup letter with
      | some character => (basicBody rest).map fun (body, left) => (character :: body, left)
      | none => escapeFault (letter :: rest)
  | character :: rest =>
      if isBasicCharacter character then
        (basicBody rest).map fun (body, left) => (character :: body, left)
      else faultAt (character :: rest)
  | [] => faultAt []

def literalBody : Reader (List Char)
  | '\'' :: rest => .ok ([], rest)
  | character :: rest =>
      if isLiteralCharacter character then
        (literalBody rest).map fun (body, left) => (character :: body, left)
      else faultAt (character :: rest)
  | [] => faultAt []

/-- Whether a backslash here ends its line, so that the break and the blanks
after it do not count. -/
def endsLine (characters : List Char) : Bool := (lineBreak? (skipBlank characters)).isSome

/-- The rest of a string in three double quotes. Up to two quotes may stand
right before the closing three. -/
def longBasicBody (isTrimming : Bool) : Reader (List Char)
  | '"' :: '"' :: '"' :: '"' :: '"' :: rest => .ok (['"', '"'], rest)
  | '"' :: '"' :: '"' :: '"' :: rest => .ok (['"'], rest)
  | '"' :: '"' :: '"' :: rest => .ok ([], rest)
  | '\\' :: 'u' :: a :: b :: c :: d :: rest =>
      match ofCode? [a, b, c, d] with
      | some character =>
          (longBasicBody false rest).map fun (body, left) => (character :: body, left)
      | none => within "unicode 4-digit hex code" (faultAt (a :: b :: c :: d :: rest))
  | '\\' :: 'U' :: a :: b :: c :: d :: e :: f :: g :: h :: rest =>
      match ofCode? [a, b, c, d, e, f, g, h] with
      | some character =>
          (longBasicBody false rest).map fun (body, left) => (character :: body, left)
      | none => within "unicode 8-digit hex code"
          (faultAt (a :: b :: c :: d :: e :: f :: g :: h :: rest))
  | '\\' :: letter :: rest =>
      match escapes.lookup letter with
      | some character =>
          (longBasicBody false rest).map fun (body, left) => (character :: body, left)
      | none =>
          if endsLine (letter :: rest) then longBasicBody true (letter :: rest)
          else escapeFault (letter :: rest)
  | '\r' :: '\n' :: rest =>
      (longBasicBody isTrimming rest).map fun (body, left) =>
        (if isTrimming then body else '\n' :: body, left)
  | character :: rest =>
      if isTrimming && (isBlank character || character = '\n') then longBasicBody true rest
      else if isBasicCharacter character || character = '"' || character = '\n' then
        (longBasicBody false rest).map fun (body, left) => (character :: body, left)
      else faultAt (character :: rest)
  | [] => faultAt []

def longLiteralBody : Reader (List Char)
  | '\'' :: '\'' :: '\'' :: '\'' :: '\'' :: rest => .ok (['\'', '\''], rest)
  | '\'' :: '\'' :: '\'' :: '\'' :: rest => .ok (['\''], rest)
  | '\'' :: '\'' :: '\'' :: rest => .ok ([], rest)
  | '\r' :: '\n' :: rest =>
      (longLiteralBody rest).map fun (body, left) => ('\n' :: body, left)
  | character :: rest =>
      if isCommentCharacter character || character = '\n' then
        (longLiteralBody rest).map fun (body, left) => (character :: body, left)
      else faultAt (character :: rest)
  | [] => faultAt []

private def dropBreak (characters : List Char) : List Char :=
  (lineBreak? characters).getD characters

def read (characters : List Char) : Except Fault (String × List Char) :=
  let result := match characters with
    | '"' :: '"' :: '"' :: rest =>
        within "multiline basic string" (longBasicBody false (dropBreak rest))
    | '"' :: rest => within "basic string" (basicBody rest)
    | '\'' :: '\'' :: '\'' :: rest =>
        within "multiline literal string" (longLiteralBody (dropBreak rest))
    | '\'' :: rest => within "literal string" (literalBody rest)
    | _ => faultAt characters
  result.map fun (body, left) => (String.ofList body, left)

end Strings

/-! ## Numbers -/

namespace Numbers

/-- A run of digits in which single underscores may separate digits, without the
underscores. -/
def run (isDigit : Char → Bool) : List Char → Except Fault (List Char × List Char)
  | '_' :: character :: rest =>
      if isDigit character then
        (run isDigit rest).map fun (digits, left) => (character :: digits, left)
      else orExpected ["digit"] (faultAt (character :: rest))
  | ['_'] => orExpected ["digit"] (faultAt [])
  | character :: rest =>
      if isDigit character then
        (run isDigit rest).map fun (digits, left) => (character :: digits, left)
      else .ok ([], character :: rest)
  | [] => .ok ([], [])

def digits (isDigit : Char → Bool) (characters : List Char) :
    Except Fault (List Char × List Char) :=
  match characters with
  | character :: rest =>
      if isDigit character then
        (run isDigit rest).map fun (digits, left) => (character :: digits, left)
      else faultAt characters
  | [] => faultAt []

/-- The whole part of a decimal: a lone zero, or digits that do not begin with
one. -/
def wholePart (characters : List Char) : Except Fault (List Char × List Char) :=
  match characters with
  | '0' :: rest => .ok (['0'], rest)
  | _ => digits Digits.isDecimal characters

private def based (base : Nat) (construct : String) (isDigit : Char → Bool)
    (characters : List Char) : Except Fault (Value × List Char) :=
  within construct do
    let (found, rest) ← orExpected ["digit"] (digits isDigit characters)
    match WholeNumber.fit? false (Digits.value base found) with
    | some number => return (.whole number, rest)
    | none => .error { rest := characters, cause := some "number too large to fit in target type" }

private def exponent (characters : List Char) : Except Fault (Int × List Char) :=
  match characters with
  | '+' :: rest => (digits Digits.isDecimal rest).map fun (found, left) =>
      ((Digits.value 10 found : Int), left)
  | '-' :: rest => (digits Digits.isDecimal rest).map fun (found, left) =>
      (-(Digits.value 10 found : Int), left)
  | rest => (digits Digits.isDecimal rest).map fun (found, left) =>
      ((Digits.value 10 found : Int), left)

private def isExponentMark (character : Char) : Bool := character = 'e' || character = 'E'

private def finishReal (start : List Char) (negative : Bool) (whole fraction : List Char)
    (power : Int) (rest : List Char) : Except Fault (Value × List Char) :=
  let spelled : Binary64.Spelled := ⟨whole, fraction, power⟩
  let number := spelled.nearest negative
  if number = .infinite false then faultAt start else .ok (.real number, rest)

/-- A decimal number without its sign: a real number if a point or an exponent
follows its whole part. -/
def decimal (start : List Char) (negative : Bool) (characters : List Char) :
    Except Fault (Value × List Char) := do
  let (whole, rest) ← within "integer" (wholePart characters)
  match rest with
  | '.' :: tail =>
      within "floating-point number" do
        let (fraction, rest) ← orExpected ["digit"] (digits Digits.isDecimal tail)
        match rest with
        | mark :: tail =>
            if isExponentMark mark then
              let (power, rest) ← exponent tail
              finishReal start negative whole fraction power rest
            else finishReal start negative whole fraction 0 rest
        | [] => finishReal start negative whole fraction 0 rest
  | mark :: tail =>
      if isExponentMark mark then
        within "floating-point number" do
          let (power, rest) ← exponent tail
          finishReal start negative whole [] power rest
      else finishWhole whole rest
  | [] => finishWhole whole rest
where
  finishWhole (whole rest : List Char) : Except Fault (Value × List Char) :=
    match WholeNumber.fit? negative (Digits.value 10 whole) with
    | some number => .ok (.whole number, rest)
    | none => within "integer" (.error {
        rest := start
        cause := some (if negative then "number too small to fit in target type"
          else "number too large to fit in target type") })

def named? (negative : Bool) : List Char → Option (Value × List Char)
  | 'i' :: 'n' :: 'f' :: rest => some (.real (.infinite negative), rest)
  | 'n' :: 'a' :: 'n' :: rest => some (.real .nan, rest)
  | _ => none

def read (characters : List Char) : Except Fault (Value × List Char) :=
  match characters with
  | '0' :: 'x' :: rest => based 16 "hexadecimal integer" Digits.isHexadecimal rest
  | '0' :: 'o' :: rest =>
      based 8 "octal integer" (fun character => '0' ≤ character && character ≤ '7') rest
  | '0' :: 'b' :: rest =>
      based 2 "binary integer" (fun character => character = '0' || character = '1') rest
  | '+' :: rest => signed false rest
  | '-' :: rest => signed true rest
  | _ => decimal characters false characters
where
  signed (negative : Bool) (rest : List Char) : Except Fault (Value × List Char) :=
    match named? negative rest with
    | some found => .ok found
    | none => decimal characters negative rest

end Numbers

def readNumeric (characters : List Char) : Except Fault (Value × List Char) :=
  match Moment.read characters with
  | .present text rest => .ok (.moment text, rest)
  | .faulty rest => within "date-time" (faultAt rest)
  | .absent => Numbers.read characters

private def quoteChoice : List String := ["\x60\"\x60", "\x60'\x60"]

def readWord (characters : List Char) : Except Fault (Value × List Char) :=
  match characters with
  | 't' :: 'r' :: 'u' :: 'e' :: rest => .ok (.flag true, rest)
  | 'f' :: 'a' :: 'l' :: 's' :: 'e' :: rest => .ok (.flag false, rest)
  | _ =>
      match Numbers.named? false characters with
      | some found => .ok found
      | none => within "string" (orExpected quoteChoice (faultAt characters))

end Toml

end Bringup
