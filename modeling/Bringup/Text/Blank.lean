namespace Bringup

/-! Characters that show as blank space, in all scripts: controls that move the
writing place, spaces of any width, and the separators of lines and paragraphs.
Characters without width are not blank. -/

namespace Blank

def ranges : List (Nat × Nat) :=
  [
    (0x9, 0xD), (0x20, 0x20), (0x85, 0x85), (0xA0, 0xA0), (0x1680, 0x1680), (0x2000, 0x200A),
    (0x2028, 0x2029), (0x202F, 0x202F), (0x205F, 0x205F), (0x3000, 0x3000)
  ]

def contains (character : Char) : Bool :=
  ranges.any fun range => range.1 ≤ character.toNat && character.toNat ≤ range.2

def trim (characters : List Char) : List Char :=
  ((characters.dropWhile contains).reverse.dropWhile contains).reverse

example : trim "\u3000 a b\t".toList = "a b".toList ∧ contains '\u200b' = false := by
  decide +kernel

end Blank

end Bringup
