import Bringup.Net.Url.Host

namespace Bringup

/-! Absolute URLs.

A URL is a scheme, a colon and the rest. The rest of a special scheme always
names a host; the rest of any other scheme does so after two slashes, and is
otherwise a path. Spaces and controls around the text do not count, nor do tabs
and line breaks inside it. The scheme is settled by the text before the first
colon alone. -/

structure Url where
  scheme : String
  username : String := ""
  password : Option String := none
  host : Option UrlHost := none
  port : Option Nat := none
  path : String := ""
  query : Option String := none
  fragment : Option String := none
deriving DecidableEq, Repr

namespace Url

def impliedPort? (scheme : String) : Option Nat :=
  [("http", 80), ("https", 443), ("ws", 80), ("wss", 443), ("ftp", 21)].lookup scheme

def isFileScheme (scheme : String) : Bool := scheme = "file"

def isSpecial (scheme : String) : Bool :=
  (impliedPort? scheme).isSome || isFileScheme scheme

/-! ## Scheme -/

def isAsciiLetter (character : Char) : Bool :=
  ('a' ≤ character && character ≤ 'z') || ('A' ≤ character && character ≤ 'Z')

def isSchemeCharacter (character : Char) : Bool :=
  isAsciiLetter character || Digits.isDecimal character || "+-.".toList.contains character

/-- Spaces and controls at either end, and tabs and line breaks anywhere, are
left out. -/
def significant (text : String) : List Char :=
  let isMargin := fun character : Char => character.toNat ≤ 0x20
  let trimmed := ((text.toList.dropWhile isMargin).reverse.dropWhile isMargin).reverse
  trimmed.filter fun character => !(['\t', '\n', '\r'].contains character)

def splitScheme? (characters : List Char) : Option (String × List Char) :=
  match characters.span isSchemeCharacter with
  | (first :: name, ':' :: rest) =>
      if isAsciiLetter first then
        some (String.ofList ((first :: name).map Char.toLower), rest)
      else none
  | _ => none

/-! ## Percent escapes by component -/

def escapesFragment (character : Char) : Bool :=
  UrlHost.isControl character || " \"<>`".toList.contains character

def escapesPath (character : Char) : Bool :=
  escapesFragment character || "#?\x7b\x7d".toList.contains character

def escapesUser (character : Char) : Bool :=
  escapesPath character || "/:;=@[\\]^|".toList.contains character

def escapesQuery (isSpecial : Bool) (character : Char) : Bool :=
  UrlHost.isControl character || " \"#<>".toList.contains character ||
    (isSpecial && character = '\'')

/-! ## Path, query and fragment -/

private def isDot (segment : List Char) : Bool :=
  [".", "%2e"].contains (String.ofList (segment.map Char.toLower))

private def isDoubleDot (segment : List Char) : Bool :=
  ["..", ".%2e", "%2e.", "%2e%2e"].contains (String.ofList (segment.map Char.toLower))

/-- Whether a segment names a drive, which no dot segment takes away. -/
def isDrive : List Char → Bool
  | [letter, mark] | letter :: mark :: '\\' :: _ =>
      isAsciiLetter letter && (mark = ':' || mark = '|')
  | _ => false

private def shorten (done : List (List Char)) : List (List Char) :=
  if done.head?.any isDrive then done else done.tail

private def resolve : List (List Char) → List (List Char) → List (List Char)
  | done, [] => done
  | done, [last] =>
      if isDoubleDot last then [] :: shorten done
      else if isDot last then [] :: done
      else last :: done
  | done, segment :: rest =>
      if isDoubleDot segment then resolve (shorten done) rest
      else if isDot segment then resolve done rest
      else resolve (segment :: done) rest

def hierarchicalPath (isSpecial : Bool) (characters : List Char) : String :=
  let isSlash := fun character => character = '/' || (isSpecial && character = '\\')
  let body := match characters with
    | first :: rest => if isSlash first then rest else characters
    | [] => []
  let segments := (resolve [] (body.splitOnP isSlash)).reverse.map fun segment =>
    Bytes.toPercent escapesPath (String.ofList segment)
  "/" ++ String.intercalate "/" segments

def splitTail (isSpecial : Bool) (characters : List Char) :
    List Char × Option String × Option String :=
  let (front, tail) := characters.span (· ≠ '#')
  let fragment := match tail with
    | _ :: text => some (Bytes.toPercent escapesFragment (String.ofList text))
    | [] => none
  let (path, tail) := front.span (· ≠ '?')
  let query := match tail with
    | _ :: text => some (Bytes.toPercent (escapesQuery isSpecial) (String.ofList text))
    | [] => none
  (path, query, fragment)

/-! ## Authority -/

def splitUser (authority : List Char) : Option (List Char × List Char) × List Char :=
  match authority.reverse.span (· ≠ '@') with
  | (_, []) => (none, authority)
  | (host, _ :: user) =>
      let (name, password) := user.reverse.span (· ≠ ':')
      (some (name, password.drop 1), host.reverse)

def splitHost (isInside : Bool) : List Char → List Char × List Char
  | [] => ([], [])
  | character :: rest =>
      if character = ':' && !isInside then ([], character :: rest)
      else
        let isInside := if character = '[' then true else if character = ']' then false else isInside
        let (host, port) := splitHost isInside rest
        (character :: host, port)

/-- The port and what follows it. A port that the scheme implies is not kept. -/
def readPort (implied : Option Nat) (characters : List Char) :
    Except UrlError (Option Nat × List Char) :=
  let (digits, rest) := characters.span Digits.isDecimal
  let port := Digits.value 10 digits
  if 65535 < port then .error .invalidPort
  else
    match rest with
    | [] | '\\' :: _ => .ok (if digits = [] ∨ implied = some port then none else some port, rest)
    | _ => .error .invalidPort

private def readAuthority (scheme : String) (characters : List Char) : Except UrlError Url := do
  let isSpecial := isSpecial scheme
  let endsAuthority := fun character =>
    "/?#".toList.contains character || (isSpecial && character = '\\')
  let (authority, rest) := characters.span (!endsAuthority ·)
  let (user, hostAndPort) := splitUser authority
  if user = some ([], []) && authority = ['@'] && !rest.isEmpty then throw .emptyHost
  let (name, password) := user.getD ([], [])
  let (hostText, portText) := splitHost false hostAndPort
  if isSpecial && hostText.isEmpty then throw .emptyHost
  let host ← if isSpecial then UrlHost.readSpecial hostText else UrlHost.readOpaque hostText
  if hostText.isEmpty && (!portText.isEmpty || name ≠ [] || password ≠ []) then throw .emptyHost
  let (port, left) ← readPort (impliedPort? scheme) (portText.drop 1)
  let (path, query, fragment) := splitTail isSpecial (left ++ rest)
  return {
    scheme
    username := Bytes.toPercent escapesUser (String.ofList name)
    password := if password = [] then none
      else some (Bytes.toPercent escapesUser (String.ofList password))
    host := if hostText.isEmpty then none else some host
    port
    path := if path.isEmpty && !isSpecial then "" else hierarchicalPath isSpecial path
    query
    fragment }

private def readFile (characters : List Char) : Except UrlError Url := do
  let isSlash := fun character => character = '/' || character = '\\'
  match characters with
  | first :: second :: rest =>
      if isSlash first && isSlash second then
        let (name, rest) := rest.span fun character => !"/\\?#".toList.contains character
        let host ← if name.isEmpty || isDrive name then pure none
          else (UrlHost.readSpecial name).map some
        let (path, query, fragment) :=
          splitTail true (if isDrive name then '/' :: name ++ rest else rest)
        return {
          scheme := "file"
          host := if host = some (.domain "localhost") then none else host
          path := hierarchicalPath true path
          query
          fragment }
      else
        let (path, query, fragment) := splitTail true characters
        return { scheme := "file", path := hierarchicalPath true path, query, fragment }
  | _ =>
      let (path, query, fragment) := splitTail true characters
      return { scheme := "file", path := hierarchicalPath true path, query, fragment }

private def readPath (scheme : String) (characters : List Char) : Url :=
  let (path, query, fragment) := splitTail false characters
  { scheme
    path := if path.head? = some '/' then hierarchicalPath false path
      else Bytes.toPercent UrlHost.isControl (String.ofList path)
    query
    fragment }

def readRest (scheme : String) (rest : List Char) : Except UrlError Url :=
  if isFileScheme scheme then readFile rest
  else if isSpecial scheme then
    readAuthority scheme (rest.dropWhile fun character => character = '/' || character = '\\')
  else
    match rest with
    | '/' :: '/' :: authority => readAuthority scheme authority
    | _ => .ok (readPath scheme rest)

private theorem scheme_of_readAuthority {scheme : String} {characters : List Char} {url : Url}
    (read : readAuthority scheme characters = .ok url) : url.scheme = scheme := by
  unfold readAuthority at read
  simp only [bind, Except.bind, pure, Except.pure, throw, throwThe, MonadExceptOf.throw] at read
  repeat' split at read
  all_goals cases read
  all_goals rfl

private theorem scheme_of_readFile {characters : List Char} {url : Url}
    (read : readFile characters = .ok url) : url.scheme = "file" := by
  unfold readFile at read
  simp only [bind, Except.bind, pure, Except.pure] at read
  repeat' split at read
  all_goals cases read
  all_goals rfl

theorem scheme_of_readRest {scheme : String} {rest : List Char} {url : Url}
    (read : readRest scheme rest = .ok url) : url.scheme = scheme := by
  unfold readRest at read
  split at read
  · rename_i file
    rw [scheme_of_readFile read]
    exact (of_decide_eq_true file).symm
  · split at read
    · exact scheme_of_readAuthority read
    · split at read
      · exact scheme_of_readAuthority read
      · cases read
        rfl

def read (text : String) : Except UrlError Url :=
  match splitScheme? (significant text) with
  | none => .error .relativeWithoutBase
  | some (scheme, rest) => readRest scheme rest

example : (read " Postgres://u:p@h:5432/d?x=1 ").toOption = some {
    scheme := "postgres", username := "u", password := some "p", host := some (.domain "h"),
    port := some 5432, path := "/d", query := some "x=1" } := by decide +kernel

example : (read "http://EXAMPLE:80/a/../b").toOption = some {
    scheme := "http", host := some (.domain "example"), path := "/b" } := by decide +kernel

/-- A drive is not left, and a caret needs no escape. -/
example : ((read "x://h/a^/C:/../b/..").toOption.map Url.path) = some "/a^/C:/" := by decide +kernel

example : (read "127.0.0.1:6379").toOption = none := by decide +kernel

end Url

end Bringup
