import Bringup.Toml.Draft
import Bringup.Toml.Scalar

namespace Bringup

/-! Reading a TOML document.

Lists and inline tables nest to a fixed depth, and a dotted key has a bounded
number of parts. Every construct consumes at least one character, so the length
of the text bounds the work. -/

namespace Toml

def depthLimit : Nat := 80

private def tooDeep (rest : List Char) : Except Fault α :=
  .error { rest, cause := some "recursion limit exceeded" }

def skipComment (characters : List Char) : List Char :=
  match characters with
  | '#' :: rest => rest.dropWhile isCommentCharacter
  | _ => characters

def endLine (characters : List Char) : Except Fault (List Char) :=
  let rest := skipComment (skipBlank characters)
  match rest with
  | [] => .ok []
  | _ =>
      match lineBreak? rest with
      | some rest => .ok rest
      | none => faultAt rest

def skipLines : Nat → List Char → Except Fault (List Char)
  | 0, characters => .ok characters
  | room + 1, characters =>
      match skipBlank characters with
      | '#' :: rest =>
          let rest := rest.dropWhile isCommentCharacter
          match lineBreak? rest with
          | some rest => skipLines room rest
          | none => faultAt rest
      | rest =>
          match lineBreak? rest with
          | some rest => skipLines room rest
          | none => .ok rest

/-! ## Keys -/

def isBareCharacter (character : Char) : Bool :=
  ('a' ≤ character && character ≤ 'z') || ('A' ≤ character && character ≤ 'Z') ||
    Digits.isDecimal character || character = '-' || character = '_'

def keyPart (characters : List Char) : Except Fault (String × List Char) :=
  match characters with
  | '"' :: rest => (within "basic string" (Strings.basicBody rest)).map fun (body, left) =>
      (String.ofList body, left)
  | '\'' :: rest => (within "literal string" (Strings.literalBody rest)).map fun (body, left) =>
      (String.ofList body, left)
  | _ =>
      match characters.span isBareCharacter with
      | ([], _) => faultAt characters
      | (body, rest) => .ok (String.ofList body, rest)

private def keyParts : Nat → List Char → Except Fault (List String × List Char)
  | 0, characters => faultAt characters
  | room + 1, characters => do
      let (part, rest) ← keyPart (skipBlank characters)
      match skipBlank rest with
      | '.' :: rest =>
          let (parts, rest) ← keyParts room rest
          return (part :: parts, rest)
      | rest => return ([part], rest)

def key (characters : List Char) : Except Fault (List String × List Char) :=
  within "key" do
    let (parts, rest) ← keyParts characters.length characters
    if depthLimit ≤ parts.length then tooDeep characters else return (parts, rest)

def equalsSign : List Char → Except Fault (List Char)
  | '=' :: rest => .ok rest
  | rest => orExpected ["\x60.\x60", "\x60=\x60"] (faultAt rest)

/-! ## Values -/

def inlineTable (start : List Char) (entries : List (List String × Draft)) :
    Except Fault Draft :=
  let result := entries.foldlM (fun drafts (path, value) =>
    Drafts.addEntry none path.dropLast (path.getLast?.getD "") value drafts) []
  match result with
  | .ok drafts => .ok (.inline drafts)
  | .error conflict => .error { rest := start, cause := some conflict.message }

def scalar (characters : List Char) : Except Fault (Draft × List Char) := do
  let (value, rest) ← readScalar characters
  let taken := characters.take (characters.length - rest.length)
  return (.scalar value ⟨characters, (String.ofList taken).utf8ByteSize⟩, rest)
where
  readScalar : Reader Value
    | [] => faultAt []
    | first :: rest =>
        if first = '"' ∨ first = '\'' then
          (Strings.read (first :: rest)).map fun (text, left) => (.text text, left)
        else if first = '+' ∨ first = '-' ∨ Digits.isDecimal first then
          readNumeric (first :: rest)
        else if first = '_' then
          within "integer" (orExpected ["leading digit"] (faultAt (first :: rest)))
        else if first = '.' then
          within "floating-point number" (orExpected ["leading digit"] (faultAt (first :: rest)))
        else readWord (first :: rest)

mutual

def value (depth : Nat) : Nat → Reader Draft
  | 0, characters => faultAt characters
  | room + 1, characters =>
      match characters with
      | '[' :: rest =>
          if depthLimit ≤ depth + 1 then tooDeep characters
          else (items (depth + 1) room rest).map fun (found, left) => (.list found, left)
      | '\x7b' :: rest =>
          if depthLimit ≤ depth + 1 then tooDeep characters
          else do
            let (found, left) ← entries (depth + 1) room (skipBlank rest)
            return (← inlineTable rest found, left)
      | _ => scalar characters

def items (depth : Nat) : Nat → Reader (List Draft)
  | 0, characters => faultAt characters
  | room + 1, characters => do
      let rest ← skipLines characters.length characters
      match rest with
      | ']' :: rest => return ([], rest)
      | _ =>
          let (item, rest) ← value depth room rest
          let rest ← skipLines rest.length rest
          match rest with
          | ',' :: rest =>
              let (more, rest) ← items depth room rest
              return (item :: more, rest)
          | ']' :: rest => return ([item], rest)
          | _ => within "array" (orExpected ["\x60]\x60"] (faultAt rest))

/-- The entries of an inline table up to its closing brace, on one line and
without a comma after the last. -/
def entries (depth : Nat) : Nat → Reader (List (List String × Draft))
  | 0, characters => faultAt characters
  | room + 1, characters =>
      match characters with
      | '\x7d' :: rest => .ok ([], rest)
      | _ => entryList depth room characters

def entryList (depth : Nat) : Nat → Reader (List (List String × Draft))
  | 0, characters => faultAt characters
  | room + 1, characters => do
      let (path, rest) ← within "inline table" (orExpected ["\x60\x7d\x60"] (key characters))
      let rest ← equalsSign rest
      let (found, rest) ← value depth room (skipBlank rest)
      match skipBlank rest with
      | ',' :: rest =>
          let (more, rest) ← entryList depth room rest
          return ((path, found) :: more, rest)
      | '\x7d' :: rest => return ([(path, found)], rest)
      | rest => within "inline table" (orExpected ["\x60\x7d\x60"] (faultAt rest))

end

/-! ## Lines -/

private def settle (start : List Char) (result : Except Conflict α) : Except Fault α :=
  result.mapError fun conflict => { rest := start, cause := some conflict.message }

def entryLine (document : OpenDocument) (characters : List Char) :
    Except Fault (OpenDocument × List Char) := do
  let (path, rest) ← key characters
  let rest ← equalsSign rest
  let start := skipBlank rest
  let (found, rest) ← value 0 (start.length + 1) start
  let rest ← orExpected ["newline", "\x60#\x60"] (endLine rest)
  let document ← settle characters (document.add path.dropLast (path.getLast?.getD "") found)
  return (document, rest)

def headerLine (document : OpenDocument) (characters : List Char) :
    Except Fault (OpenDocument × List Char) :=
  within "table header" do
    match characters with
    | '[' :: '[' :: rest =>
        let (path, rest) ← key rest
        match rest with
        | ']' :: ']' :: rest =>
            let rest ← orExpected ["newline", "\x60#\x60"] (endLine rest)
            return (← settle characters (document.openRepeated path), rest)
        | _ => orExpected ["\x60.\x60", "\x60]]\x60"] (faultAt rest)
    | _ =>
        let (path, rest) ← key (characters.drop 1)
        match rest with
        | ']' :: rest =>
            let rest ← orExpected ["newline", "\x60#\x60"] (endLine rest)
            return (← settle characters (document.openTable path), rest)
        | _ => orExpected ["\x60.\x60", "\x60]\x60"] (faultAt rest)

private def lines : Nat → OpenDocument → List Char → Except Fault OpenDocument
  | 0, document, _ => .ok document
  | room + 1, document, characters =>
      match skipBlank characters with
      | [] => .ok document
      | '#' :: rest =>
          match endLine ('#' :: rest) with
          | .ok rest => lines room document rest
          | .error fault => .error fault
      | '[' :: rest =>
          match headerLine document ('[' :: rest) with
          | .ok (document, rest) => lines room document rest
          | .error fault => .error fault
      | first :: rest =>
          if first = '\n' ∨ first = '\r' then
            match lineBreak? (first :: rest) with
            | some rest => lines room document rest
            | none => faultAt (first :: rest)
          else
            match entryLine document (first :: rest) with
            | .ok (document, rest) => lines room document rest
            | .error fault => .error fault

def read (text : String) : Except Fault Table := do
  let characters := match text.toList with
    | '\ufeff' :: rest => rest
    | characters => characters
  let document ← lines (characters.length + 1) {} characters
  let drafts ← settle [] document.close
  Draft.entriesToTable drafts

example : (read "[a]\nb.c = 1\n[a.b]").toOption.isNone = true := by decide +kernel

/-- The first entry decides whether a table is a moment, and then the others do
not matter. -/
example : (read "a = \x7b'$__toml_private_datetime' = 'x'\x7d").toOption.isNone = true ∧
    (read "a = \x7bb = 1, '$__toml_private_datetime' = 'x'\x7d").toOption.isSome = true := by
  decide +kernel

example : ((read "a = [ 1, 0x_2 ]").toOption).isNone = true := by decide +kernel

end Toml

end Bringup
