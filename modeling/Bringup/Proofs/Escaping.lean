import Bringup.Json.Reading

namespace Bringup

namespace Json

/-! Texts and how they are spelled.

A character of a text stands for itself, or it is escaped after a backslash: by a letter, by
its code unit, or by two of them. In whichever way a text is spelled, it is read as this text
(`Json.SpellsText.readText`), and what is written of a text spells it (`Json.spells_writeText`). -/

structure IsPlain (character : Char) : Prop where
  notQuote : character ≠ '"'
  notBackslash : character ≠ '\\'
  notControl : ¬ character.toNat < 0x20

def letters : List (Char × Char) :=
  [('"', '"'), ('\\', '\\'), ('/', '/'), ('b', '\x08'), ('f', '\x0c'), ('n', '\n'), ('r', '\r'),
    ('t', '\t')]

inductive SpellsUnit : List Char → Nat → Prop
  | four {first second third fourth : Char}
      (hexadecimal : [first, second, third, fourth].all Digits.isHexadecimal = true) :
      SpellsUnit [first, second, third, fourth] (Digits.value 16 [first, second, third, fourth])

/-- A character beyond the first 65536 is spelled by two units of which each holds ten bits. -/
inductive SpellsCharacter : List Char → Char → Prop
  | plain {character : Char} (plain : IsPlain character) : SpellsCharacter [character] character
  | letter {letter character : Char} (listed : (letter, character) ∈ letters) :
      SpellsCharacter ['\\', letter] character
  | unit {digits : List Char} {character : Char} (spelled : SpellsUnit digits character.toNat) :
      SpellsCharacter ('\\' :: 'u' :: digits) character
  | pair {leading trailing : List Char} {high low : Nat} {character : Char}
      (highSpelled : SpellsUnit leading (0xD800 + high)) (highFits : high < 0x400)
      (lowSpelled : SpellsUnit trailing (0xDC00 + low)) (lowFits : low < 0x400)
      (code : character.toNat = 0x10000 + high * 0x400 + low) :
      SpellsCharacter ('\\' :: 'u' :: leading ++ '\\' :: 'u' :: trailing) character

inductive SpellsCharacters : List Char → List Char → Prop
  | nil : SpellsCharacters [] []
  | cons {written rest : List Char} {character : Char} {characters : List Char}
      (first : SpellsCharacter written character) (later : SpellsCharacters rest characters) :
      SpellsCharacters (written ++ rest) (character :: characters)

inductive SpellsText : List Char → String → Prop
  | quoted {inside : List Char} {text : String} (spelled : SpellsCharacters inside text.toList) :
      SpellsText ('"' :: inside ++ ['"']) text

/-! ## Reading -/

theorem SpellsUnit.codeUnit?_eq {digits : List Char} {unit : Nat} (spelled : SpellsUnit digits unit)
    (rest : List Char) : codeUnit? (digits ++ rest) = some (unit, rest) := by
  cases spelled with
  | four hexadecimal => exact if_pos hexadecimal

theorem toNat_cases (character : Char) :
    character.toNat < 0xD800 ∨ 0xDFFF < character.toNat ∧ character.toNat < 0x110000 :=
  character.valid

theorem SpellsCharacter.reads {written : List Char} {character : Char}
    (spelled : SpellsCharacter written character) (fuel : Nat) (rest : List Char) :
    readCharacters (fuel + 1) (written ++ rest) =
      (readCharacters fuel rest).map fun result => (character :: result.1, result.2) := by
  -- Whatever stands after a backslash is read as the character.
  have escaped : ∀ {letters : List Char}, escaped? (letters ++ rest) = some (character, rest) →
      readCharacters (fuel + 1) ('\\' :: letters ++ rest) =
        (readCharacters fuel rest).map fun result => (character :: result.1, result.2) := by
    intro letters read
    rw [List.cons_append, readCharacters, if_neg (by decide), if_pos rfl, read]
    cases found : readCharacters fuel rest <;> simp [found]
  cases spelled with
  | plain plain =>
      rw [List.singleton_append, readCharacters, if_neg plain.notQuote, if_neg plain.notBackslash,
        if_neg plain.notControl]
      cases readCharacters fuel rest <;> rfl
  | letter listed =>
      apply escaped
      simp only [letters, List.mem_cons, List.not_mem_nil, or_false, Prod.mk.injEq] at listed
      rcases listed with ⟨rfl, rfl⟩ | ⟨rfl, rfl⟩ | ⟨rfl, rfl⟩ | ⟨rfl, rfl⟩ | ⟨rfl, rfl⟩ |
        ⟨rfl, rfl⟩ | ⟨rfl, rfl⟩ | ⟨rfl, rfl⟩ <;> rfl
  | @unit digits _ spelled =>
      apply escaped
      have scalar := toNat_cases character
      have leads : isLeadingUnit character.toNat = false := by
        simp [isLeadingUnit]
        omega
      have trails : isTrailingUnit character.toNat = false := by
        simp [isTrailingUnit]
        omega
      rw [List.cons_append, escaped?, escapedCode?, spelled.codeUnit?_eq]
      simp [leads, trails, Char.ofNat_toNat]
  | @pair leading trailing high low _ highSpelled highFits lowSpelled lowFits code =>
      rw [List.cons_append, List.cons_append]
      apply escaped
      have leads : isLeadingUnit (0xD800 + high) = true := by
        simp [isLeadingUnit]
        omega
      have apart : isTrailingUnit (0xD800 + high) = false := by
        simp [isTrailingUnit]
        omega
      have trails : isTrailingUnit (0xDC00 + low) = true := by
        simp [isTrailingUnit]
        omega
      simp only [List.cons_append, List.append_assoc, escaped?, escapedCode?,
        highSpelled.codeUnit?_eq]
      simp [leads, apart, trails, lowSpelled.codeUnit?_eq, ← code, Char.ofNat_toNat]

theorem SpellsCharacter.ne_nil {written : List Char} {character : Char}
    (spelled : SpellsCharacter written character) : written ≠ [] := by
  cases spelled <;> exact List.cons_ne_nil _ _

theorem SpellsCharacters.length_le {written characters : List Char}
    (spelled : SpellsCharacters written characters) : characters.length ≤ written.length := by
  induction spelled with
  | nil => exact Nat.le_refl 0
  | cons first later induction =>
      have written := List.length_pos_iff.mpr first.ne_nil
      rw [List.length_append, List.length_cons]
      omega

theorem SpellsCharacters.reads {written characters : List Char}
    (spelled : SpellsCharacters written characters) {fuel : Nat}
    (enough : characters.length < fuel) (rest : List Char) :
    readCharacters fuel (written ++ '"' :: rest) = some (characters, rest) := by
  induction spelled generalizing fuel with
  | nil =>
      obtain ⟨fuel, rfl⟩ := Nat.exists_eq_succ_of_ne_zero (Nat.ne_of_gt enough)
      rfl
  | cons first later induction =>
      obtain ⟨fuel, rfl⟩ := Nat.exists_eq_succ_of_ne_zero (Nat.ne_of_gt (Nat.zero_lt_of_lt enough))
      rw [List.append_assoc, first.reads, induction (Nat.lt_of_succ_lt_succ enough)]
      rfl

theorem SpellsCharacters.readText {inside : List Char} {text : String}
    (spelled : SpellsCharacters inside text.toList) (rest : List Char) :
    readText (inside ++ '"' :: rest) = some (text, rest) := by
  have length := spelled.length_le
  rw [Json.readText, spelled.reads]
  · rw [Option.map_some, String.ofList_toList]
  · rw [List.length_append, List.length_cons]
    omega

/-! ## Writing -/

theorem spellsUnit_control {code : Nat} (control : code < 0x20) :
    SpellsUnit ['0', '0', Nat.digitChar (code / 16), Nat.digitChar (code % 16)] code := by
  have spelled : ∀ number < 0x20,
      ['0', '0', Nat.digitChar (number / 16), Nat.digitChar (number % 16)].all
          Digits.isHexadecimal = true ∧
        Digits.value 16 ['0', '0', Nat.digitChar (number / 16), Nat.digitChar (number % 16)] =
          number := by
    decide
  rcases spelled code control with ⟨hexadecimal, value⟩
  have four := SpellsUnit.four hexadecimal
  rwa [value] at four

theorem spells_escape (character : Char) : SpellsCharacter (escape character) character := by
  by_cases lettered : character ∈ ['"', '\\', '\x08', '\x0c', '\n', '\r', '\t']
  · simp only [List.mem_cons, List.not_mem_nil, or_false] at lettered
    rcases lettered with rfl | rfl | rfl | rfl | rfl | rfl | rfl <;>
      exact .letter (by decide)
  · simp only [List.mem_cons, List.not_mem_nil, or_false, not_or] at lettered
    rcases lettered with ⟨notQuote, notBackslash, notBack, notFeed, notLine, notReturn, notTab⟩
    rw [escape, if_neg notQuote, if_neg notBackslash, if_neg notBack, if_neg notFeed,
      if_neg notLine, if_neg notReturn, if_neg notTab]
    by_cases control : character.toNat < 0x20
    · rw [if_pos control]
      exact .unit (spellsUnit_control control)
    · rw [if_neg control]
      exact .plain ⟨notQuote, notBackslash, control⟩

theorem spells_flatMap_escape (characters : List Char) :
    SpellsCharacters (characters.flatMap escape) characters := by
  induction characters with
  | nil => exact .nil
  | cons character rest induction => exact .cons (spells_escape character) induction

theorem spells_writeText (text : String) : SpellsText (writeText text) text :=
  .quoted (spells_flatMap_escape text.toList)

end Json

end Bringup
