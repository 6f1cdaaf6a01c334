import Bringup.Text.Unseen
import Bringup.Text.Extending

namespace Bringup

/-! Text between double quotes, as error messages and log lines show it.

A quote and a backslash are written with a backslash, the four usual controls by
their letter, and every character that would not be seen as itself by its code
point in braces. -/

namespace Quoted

def codePoint (character : Char) : List Char :=
  ['\\', 'u', '\x7b'] ++ Nat.toDigits 16 character.toNat ++ ['\x7d']

def escape (character : Char) : List Char :=
  if character = '"' then ['\\', '"']
  else if character = '\\' then ['\\', '\\']
  else if character = '\n' then ['\\', 'n']
  else if character = '\r' then ['\\', 'r']
  else if character = '\t' then ['\\', 't']
  else if character = '\x00' then ['\\', '0']
  else if Extending.contains character || Unseen.contains character then codePoint character
  else [character]

end Quoted

def quoted (text : String) : String :=
  String.ofList ('"' :: text.toList.flatMap Quoted.escape ++ ['"'])

example : quoted "a'b\n" = "\"a'b\\n\"" := by decide +kernel

example : quoted "e\u0301" = "\"e\\u\x7b301\x7d\"" := by decide +kernel

end Bringup
