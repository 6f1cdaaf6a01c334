import Bringup.Text.Blank
import Bringup.Text.Digits
import Bringup.Text.Letters

namespace Bringup

/-! Which texts are patterns.

A pattern describes texts by characters, brackets of characters, groups,
alternatives and repetitions. Nothing is ever compared with a pattern here, so
reading one only tells whether it is well formed and can be met by a machine that
sees one byte at a time and knows no tables of letters: neither letter case nor
the digits, blanks and words of all scripts are known to it, while those of ASCII
are, once a pattern asks for bytes.

Patterns are taken from between braces and hold no closing brace themselves, so
no count of repetitions and no code in braces is ever complete. -/

namespace Pattern

/-- How the text of a pattern is read; a group may change it up to its end. -/
structure Flags where
  ignoresCase : Bool := false
  /-- A pattern speaks of the bytes of ASCII instead of all characters. -/
  byBytes : Bool := false
  /-- Blanks and remarks may stand between the parts. -/
  isSpaced : Bool := false
deriving DecidableEq, Repr

namespace Flags

/-- Flags without effect on the form of a pattern are known and passed over. -/
def set? (flags : Flags) (flag : Char) (value : Bool) : Option Flags :=
  match flag with
  | 'i' => some { flags with ignoresCase := value }
  | 'u' => some { flags with byBytes := !value }
  | 'x' => some { flags with isSpaced := value }
  | 'm' | 's' | 'R' | 'U' => some flags
  | _ => none

def needsCases (flags : Flags) : Bool := flags.ignoresCase && !flags.byBytes

end Flags

/-- The text after blanks and remarks; a remark starts with a number sign and
ends with its line. -/
def afterRemarks (inRemark : Bool) : List Char → List Char
  | [] => []
  | character :: rest =>
      if inRemark then afterRemarks (character != '\n') rest
      else if Blank.contains character then afterRemarks false rest
      else if character = '#' then afterRemarks true rest
      else character :: rest

def Flags.skip (flags : Flags) (text : List Char) : List Char :=
  if flags.isSpaced then afterRemarks false text else text

/-! ## Single characters -/

inductive Atom where
  /-- The character itself; a byte is written with two digits. -/
  | literal (character : Char) (isByte : Bool)
  /-- The digits, the blanks or the characters of words, or all others. -/
  | kind (isNegated : Bool)
  /-- The start or the end of the text. -/
  | edge
  /-- The start or the end of a word, or neither. -/
  | wordEdge
deriving DecidableEq, Repr

namespace Atom

def standsAlone (flags : Flags) : Atom → Bool
  | literal character isByte =>
      !flags.needsCases && !(flags.byBytes && isByte && 0x80 ≤ character.toNat)
  | kind isNegated => flags.byBytes && !isNegated
  | edge => true
  | wordEdge => flags.byBytes

def standsInBrackets (flags : Flags) : Atom → Bool
  | literal character _ => !flags.byBytes || character.toNat < 0x80
  | kind isNegated => flags.byBytes && !isNegated
  | edge | wordEdge => false

end Atom

def readCode (flags : Flags) : Nat → Nat → List Char → Option (Nat × List Char)
  | 0, code, text => some (code, text)
  | _ + 1, _, [] => none
  | count + 1, code, digit :: rest =>
      if Digits.isHexadecimal digit then
        readCode flags count (16 * code + Digits.digit digit) (flags.skip rest)
      else none

def readCoded (flags : Flags) (digits : Nat) (text : List Char) : Option (Atom × List Char) :=
  match readCode flags digits 0 (flags.skip text) with
  | some (code, rest) =>
      if code.isValidChar then some (.literal (Char.ofNat code) (digits = 2), rest) else none
  | none => none

def readEscape (flags : Flags) : List Char → Option (Atom × List Char)
  | [] => none
  | 'x' :: rest => readCoded flags 2 rest
  | 'u' :: rest => readCoded flags 4 rest
  | 'U' :: rest => readCoded flags 8 rest
  | character :: rest =>
      let plain := fun meant => some (Atom.literal meant false, rest)
      match character with
      | 'd' | 's' | 'w' => some (.kind false, rest)
      | 'D' | 'S' | 'W' => some (.kind true, rest)
      | 'A' | 'z' => some (.edge, rest)
      | 'b' | 'B' | '<' | '>' => some (.wordEdge, rest)
      | 'a' => plain '\x07'
      | 'f' => plain '\x0c'
      | 'n' => plain '\n'
      | 'r' => plain '\r'
      | 't' => plain '\t'
      | 'v' => plain '\x0b'
      | _ => if character.toNat < 0x80 && !character.isAlphanum then plain character else none

/-! ## Brackets -/

/-- Brackets that are still open. Of the bytes beyond ASCII they hold all or
none; whether they hold them is what can make them impossible to meet. -/
structure Brackets where
  isNegated : Bool := false
  /-- What the sets before the last operator make of the set after it. -/
  combine : Bool → Bool := fun held => held
  /-- Whether the set after the last operator holds bytes beyond ASCII. -/
  held : Bool := false

namespace Brackets

def value (brackets : Brackets) : Bool := brackets.combine brackets.held != brackets.isNegated

def operate (brackets : Brackets) (operator : Bool → Bool → Bool) : Brackets :=
  let before := brackets.combine brackets.held
  { brackets with combine := operator before, held := false }

/-- The brackets that open here. Dashes at the front stand for themselves, and
so does a closing bracket there. -/
def start (flags : Flags) (text : List Char) : Brackets × List Char :=
  let (isNegated, text) := match flags.skip text with
    | '^' :: rest => (true, flags.skip rest)
    | text => (false, text)
  let afterDashes := text.dropWhile fun character =>
    character = '-' || (flags.isSpaced && Blank.contains character)
  match text with
  | ']' :: rest => ({ isNegated }, rest)
  | _ => ({ isNegated }, afterDashes)

end Brackets

def setNames : List String :=
  ["alnum", "alpha", "ascii", "blank", "cntrl", "digit", "graph", "lower", "print", "punct",
    "space", "upper", "word", "xdigit"]

/-- A named set between colons, after its opening bracket: whether it is
negated. -/
def readNamedSet (text : List Char) : Option (Bool × List Char) :=
  match text with
  | ':' :: text =>
      let (isNegated, text) := match text with
        | '^' :: rest => (true, rest)
        | text => (false, text)
      let (name, rest) := text.span (· ≠ ':')
      match rest with
      | ':' :: ']' :: rest =>
          if String.ofList name ∈ setNames then some (isNegated, rest) else none
      | _ => none
  | _ => none

def readMember (flags : Flags) : List Char → Option (Atom × List Char)
  | [] => none
  | '\\' :: rest => readEscape flags rest
  | character :: rest => some (.literal character false, rest)

/-- A character, or a range from one character to another not before it. -/
def readMembers (flags : Flags) (text : List Char) : Option (List Char) := do
  let (first, rest) ← readMember flags text
  if !first.standsInBrackets flags then failure
  match flags.skip rest with
  | '-' :: afterDash =>
      match flags.skip afterDash with
      | ']' :: _ | '-' :: _ => return '-' :: afterDash
      | text =>
          let (last, rest) ← readMember flags text
          if !last.standsInBrackets flags then failure
          match first, last with
          | .literal low _, .literal high _ =>
              if low.toNat ≤ high.toNat then return rest else failure
          | _, _ => failure
  | rest => return rest

/-- What follows the outermost brackets. The counter bounds the members. -/
def readBrackets (flags : Flags) :
    Nat → Brackets → List Brackets → List Char → Option (List Char)
  | 0, _, _, _ => none
  | fuel + 1, brackets, outer, text =>
      match flags.skip text with
      | [] => none
      | '[' :: rest =>
          match readNamedSet rest with
          | some (isNegated, rest) =>
              readBrackets flags fuel { brackets with held := brackets.held || isNegated } outer rest
          | none =>
              let (inner, rest) := Brackets.start flags rest
              readBrackets flags fuel inner (brackets :: outer) rest
      | ']' :: rest =>
          if flags.byBytes && brackets.value then none
          else
            match outer with
            | [] => some rest
            | brackets :: outer => readBrackets flags fuel brackets outer rest
      | '&' :: '&' :: rest => readBrackets flags fuel (brackets.operate (· && ·)) outer rest
      | '-' :: '-' :: rest =>
          readBrackets flags fuel (brackets.operate fun left right => left && !right) outer rest
      | '~' :: '~' :: rest => readBrackets flags fuel (brackets.operate (· != ·)) outer rest
      | text => (readMembers flags text).bind (readBrackets flags fuel brackets outer)

/-! ## Groups -/

/-- The flags after a question mark. They change the rest of the group around
them or, before a colon, make a group of their own. -/
def readFlags (flags : Flags) (seen : List Char) : List Char → Option (Flags × Bool × List Char)
  | [] => none
  | character :: rest =>
      if character = ':' then
        if seen.head? = some '-' then none else some (flags, true, rest)
      else if character = ')' then
        if seen.isEmpty || seen.head? = some '-' then none else some (flags, false, rest)
      else if seen.contains character then none
      else if character = '-' then readFlags flags (character :: seen) rest
      else
        match flags.set? character (!seen.contains '-') with
        | some flags => readFlags flags (character :: seen) rest
        | none => none

def isGroupName : List Char → Bool
  | [] => false
  | first :: rest =>
      (first = '_' || Letters.isAlphabetic first) &&
        rest.all fun character =>
          ['_', '.', '[', ']'].contains character || Letters.isAlphanumeric character

structure Progress where
  flags : Flags := {}
  /-- The flags to go back to at the end of each open group. -/
  groups : List Flags := []
  groupNames : List (List Char) := []
  /-- Whether a part stands before that can be repeated. -/
  isRepeatable : Bool := false
deriving DecidableEq, Repr

namespace Progress

def openGroup (progress : Progress) (flags : Flags) : Progress :=
  { progress with flags, groups := progress.flags :: progress.groups, isRepeatable := false }

def readGroupName (progress : Progress) (text : List Char) : Option (Progress × List Char) :=
  let (name, rest) := text.span (· ≠ '>')
  match rest with
  | '>' :: rest =>
      if isGroupName name && !progress.groupNames.contains name then
        let progress := { progress with groupNames := name :: progress.groupNames }
        some (progress.openGroup progress.flags, rest)
      else none
  | _ => none

def readGroup (progress : Progress) (text : List Char) : Option (Progress × List Char) :=
  match progress.flags.skip text with
  | '?' :: '<' :: rest | '?' :: 'P' :: '<' :: rest => progress.readGroupName rest
  | '?' :: rest =>
      match readFlags progress.flags [] rest with
      | some (flags, true, rest) => some (progress.openGroup flags, rest)
      | some (flags, false, rest) => some ({ progress with flags, isRepeatable := false }, rest)
      | none => none
  | rest => some (progress.openGroup progress.flags, rest)

def advance (progress : Progress) (character : Char) (rest : List Char) :
    Option (Progress × List Char) :=
  let flags := progress.flags
  let part := { progress with isRepeatable := true }
  match character with
  | '(' => progress.readGroup rest
  | ')' =>
      match progress.groups with
      | [] => none
      | flags :: groups => some ({ part with flags, groups }, rest)
  | '|' => some ({ progress with isRepeatable := false }, rest)
  | '*' | '+' | '?' =>
      if progress.isRepeatable then
        match rest with
        | '?' :: rest => some (progress, rest)
        | rest => some (progress, rest)
      else none
  | '\x7b' => none
  | '[' =>
      let (brackets, inside) := Brackets.start flags rest
      if flags.needsCases then none
      else (readBrackets flags (rest.length + 1) brackets [] inside).map fun rest => (part, rest)
  | '.' => if flags.byBytes then none else some (part, rest)
  | '^' | '$' => some (part, rest)
  | '\\' =>
      match readEscape flags rest with
      | some (atom, rest) => if atom.standsAlone flags then some (part, rest) else none
      | none => none
  | _ => if (Atom.literal character false).standsAlone flags then some (part, rest) else none

/-- Whether the rest of a pattern is well formed. Every part takes a character,
so a counter beyond the length of the rest never runs out. -/
def accepts : Nat → Progress → List Char → Bool
  | 0, _, _ => false
  | fuel + 1, progress, text =>
      match progress.flags.skip text with
      | [] => progress.groups.isEmpty
      | character :: rest =>
          match progress.advance character rest with
          | some (progress, rest) => accepts fuel progress rest
          | none => false

end Progress

def isValid (text : List Char) : Bool := Progress.accepts (text.length + 1) {} text

example : ["", "a|b*?", "(?P<name>[^]a-z[:digit:]&&[^x]]+)$", "(?-u)\\bid\\d+", "(?x) a # b )"].all
    (fun text => isValid text.toList) = true := by decide +kernel

example : ["(", "*", "[a", "a|+", "\\b", "\\d", "(?i)a", "(?-u).", "[z-a]", "(?)", "a)"].any
    (fun text => isValid text.toList) = false := by decide +kernel

end Pattern

end Bringup
