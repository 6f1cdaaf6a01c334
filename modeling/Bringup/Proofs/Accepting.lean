import Bringup.Proofs.Sorting

namespace Bringup

namespace Json

/-! Nothing but documents is read.

Each reader takes a piece from the front of a text that spells what it gives back, down to the
digits of a number and the escapes of a text. A value that is read may be that of an embedded
text, but what was taken is a document all the same (`Json.exists_document`). -/

/-! ## Texts -/

theorem digit_lt_sixteen {character : Char}
    (hexadecimal : Digits.isHexadecimal character = true) : Digits.digit character < 16 := by
  simp only [Digits.isHexadecimal, Digits.isDecimal, Bool.or_eq_true, Bool.and_eq_true,
    decide_eq_true_eq, Char.le_def, UInt32.le_iff_toNat_le] at hexadecimal
  have zero : '0'.val.toNat = 48 := rfl
  have nine : '9'.val.toNat = 57 := rfl
  have small : 'a'.val.toNat = 97 ∧ 'f'.val.toNat = 102 := ⟨rfl, rfl⟩
  have capital : 'A'.val.toNat = 65 ∧ 'F'.val.toNat = 70 := ⟨rfl, rfl⟩
  simp only [Digits.digit, Digits.isDecimal, Bool.and_eq_true, decide_eq_true_eq, Char.le_def,
    UInt32.le_iff_toNat_le, Char.toNat]
  split
  · omega
  · split <;> omega

theorem SpellsUnit.lt {digits : List Char} {unit : Nat} (spelled : SpellsUnit digits unit) :
    unit < 0x10000 := by
  rcases spelled with ⟨hexadecimal⟩
  simp only [List.all_cons, List.all_nil, Bool.and_true, Bool.and_eq_true] at hexadecimal
  rcases hexadecimal with ⟨first, second, third, fourth⟩
  have first := digit_lt_sixteen first
  have second := digit_lt_sixteen second
  have third := digit_lt_sixteen third
  have fourth := digit_lt_sixteen fourth
  simp only [Digits.value, List.foldl_cons, List.foldl_nil]
  omega

theorem codeUnit?_spelled {characters rest : List Char} {unit : Nat}
    (read : codeUnit? characters = some (unit, rest)) :
    ∃ digits, SpellsUnit digits unit ∧ characters = digits ++ rest := by
  unfold codeUnit? at read
  split at read
  · split at read
    · rename_i hexadecimal
      cases read
      exact ⟨_, .four hexadecimal, rfl⟩
    · cases read
  · cases read

theorem toNat_ofNat {code : Nat} (scalar : code.isValidChar) :
    (Char.ofNat code).toNat = code := by
  rw [Char.ofNat, dif_pos scalar]
  rfl

theorem escapedCode?_spelled {characters rest : List Char} {character : Char}
    (read : escapedCode? characters = some (character, rest)) :
    ∃ letters, SpellsCharacter ('\\' :: 'u' :: letters) character ∧
      characters = letters ++ rest := by
  unfold escapedCode? at read
  rcases Option.bind_eq_some_iff.mp read with ⟨⟨unit, left⟩, leading, decoded⟩
  rcases codeUnit?_spelled leading with ⟨digits, spelled, rfl⟩
  have bound := spelled.lt
  dsimp only at decoded
  split at decoded
  · cases decoded
  · rename_i apart
    simp only [isTrailingUnit, Bool.and_eq_true, decide_eq_true_eq] at apart
    split at decoded
    · rename_i leads
      simp only [isLeadingUnit, Bool.and_eq_true, decide_eq_true_eq] at leads
      split at decoded
      · rename_i tail
        rcases Option.bind_eq_some_iff.mp decoded with ⟨⟨second, left⟩, trailing, paired⟩
        rcases codeUnit?_spelled trailing with ⟨more, spelledSecond, rfl⟩
        dsimp only at paired
        split at paired
        · rename_i trails
          simp only [isTrailingUnit, Bool.and_eq_true, decide_eq_true_eq] at trails
          rcases Prod.mk.inj (Option.some.inj paired) with ⟨rfl, rfl⟩
          obtain ⟨high, rfl⟩ := Nat.exists_eq_add_of_le leads.1
          obtain ⟨low, rfl⟩ := Nat.exists_eq_add_of_le trails.1
          have code : 0x10000 + (0xD800 + high - 0xD800) * 0x400 + (0xDC00 + low - 0xDC00) =
              0x10000 + high * 0x400 + low := by omega
          have scalar : (0x10000 + high * 0x400 + low).isValidChar := .inr (by omega)
          refine ⟨digits ++ '\\' :: 'u' :: more, ?_, by simp⟩
          rw [code]
          exact .pair spelled (by omega) spelledSecond (by omega) (toNat_ofNat scalar)
        · cases paired
      · cases decoded
    · rename_i single
      simp only [isLeadingUnit, Bool.and_eq_true, decide_eq_true_eq] at single
      cases decoded
      have scalar : unit.isValidChar := by
        rcases Nat.lt_or_ge unit 0xD800 with below | above
        · exact .inl below
        · exact .inr (by omega)
      refine ⟨digits, .unit ?_, rfl⟩
      rwa [toNat_ofNat scalar]

theorem escaped?_spelled {characters rest : List Char} {character : Char}
    (read : escaped? characters = some (character, rest)) :
    ∃ letters, SpellsCharacter ('\\' :: letters) character ∧ characters = letters ++ rest := by
  unfold escaped? at read
  split at read
  case h_9 =>
    rcases escapedCode?_spelled read with ⟨letters, spelled, rfl⟩
    exact ⟨'u' :: letters, spelled, rfl⟩
  case h_10 => cases read
  all_goals
    cases read
    exact ⟨[_], .letter (by decide), rfl⟩

theorem readCharacters_spelled {fuel : Nat} {characters rest content : List Char}
    (read : readCharacters fuel characters = some (content, rest)) :
    ∃ inside, SpellsCharacters inside content ∧ characters = inside ++ '"' :: rest := by
  induction fuel generalizing characters content with
  | zero => cases read
  | succ fuel induction =>
      cases characters with
      | nil => cases read
      | cons first more =>
          rw [readCharacters] at read
          split at read
          · rename_i quote
            cases read
            exact ⟨[], .nil, by rw [quote]; rfl⟩
          · rename_i notQuote
            split at read
            · rename_i backslash
              rcases Option.bind_eq_some_iff.mp read with ⟨⟨value, left⟩, escaped, read⟩
              rcases Option.bind_eq_some_iff.mp read with ⟨⟨values, last⟩, later, read⟩
              cases read
              rcases escaped?_spelled escaped with ⟨letters, spelled, rfl⟩
              rcases induction later with ⟨inside, further, rfl⟩
              exact ⟨_, .cons spelled further, by rw [backslash]; simp⟩
            · rename_i notBackslash
              split at read
              · cases read
              · rename_i notControl
                rcases Option.bind_eq_some_iff.mp read with ⟨⟨values, last⟩, later, read⟩
                cases read
                rcases induction later with ⟨inside, further, rfl⟩
                have plain : IsPlain first := ⟨notQuote, notBackslash, notControl⟩
                exact ⟨_, .cons (.plain plain) further, rfl⟩

theorem readText_spelled {characters rest : List Char} {text : String}
    (read : readText characters = some (text, rest)) :
    ∃ written, SpellsText written text ∧ '"' :: characters = written ++ rest := by
  rcases Option.map_eq_some_iff.mp read with ⟨⟨content, left⟩, found, same⟩
  cases same
  rcases readCharacters_spelled found with ⟨inside, spelled, rfl⟩
  have spelled : SpellsCharacters inside (String.ofList content).toList := by
    rwa [String.toList_ofList]
  exact ⟨_, .quoted spelled, by simp⟩

theorem readQuoted_spelled {characters rest : List Char} {text : String}
    (read : readQuoted characters = some (text, rest)) :
    ∃ blanks written, IsBlanks blanks ∧ SpellsText written text ∧
      characters = blanks ++ (written ++ rest) := by
  rcases exists_skipBlanks characters with ⟨blanks, blank, skipped⟩
  unfold readQuoted at read
  split at read
  · rename_i starts
    rcases readText_spelled read with ⟨written, spelled, taken⟩
    exact ⟨blanks, written, blank, spelled, by rw [skipped, starts, taken]⟩
  · cases read

theorem readKey_spelled {characters rest : List Char} {key : String}
    (read : readKey characters = some (key, rest)) :
    ∃ name, SpellsKey name key ∧ characters = name ++ rest := by
  rcases Option.bind_eq_some_iff.mp read with ⟨⟨text, left⟩, quoted, followed⟩
  rcases readQuoted_spelled quoted with ⟨before, written, blankBefore, spelled, rfl⟩
  rcases exists_skipBlanks left with ⟨after, blankAfter, skipped⟩
  dsimp only at followed
  split at followed
  · rename_i starts
    cases followed
    refine ⟨_, .padded blankBefore spelled blankAfter, ?_⟩
    rw [skipped, starts]
    simp
  · cases followed

/-! ## Numbers -/

/-- Digits are taken where reading goes on only if there are some. -/
theorem digits_of_read {characters rest : List Char} {value : Json}
    {later : Option (Json × List Char)}
    (read : (if (characters.span Digits.isDecimal).1.isEmpty then none else later) =
      some (value, rest)) :
    later = some (value, rest) ∧ IsDigits (characters.span Digits.isDecimal).1 ∧
      characters = (characters.span Digits.isDecimal).1 ++
        (characters.span Digits.isDecimal).2 := by
  split at read
  · cases read
  · rename_i nonempty
    rw [List.span_eq_takeWhile_dropWhile] at nonempty ⊢
    exact ⟨read, ⟨by simpa using nonempty, List.all_eq_true.mp List.all_takeWhile⟩,
      List.takeWhile_append_dropWhile.symm⟩

theorem scaledReal?_eq_some {isNegative : Bool} {significand : Nat} {power : Int} {value : Json}
    (scaled : scaledReal? isNegative significand power = some value) :
    ∃ number, value = .real number := by
  rcases Option.map_eq_some_iff.mp scaled with ⟨number, _, rfl⟩
  exact ⟨_, rfl⟩

/-- Whatever an exponent does to a number, the number is no whole one. -/
theorem real_of_power {isGreat isOver : Prop} [Decidable isGreat] [Decidable isOver]
    {zero : Binary64} {left rest : List Char} {isNegative : Bool} {significand : Nat}
    {power : Int} {value : Json}
    (read : (if isGreat then if isOver then none else some (real zero, left)
      else (scaledReal? isNegative significand power).bind fun number => some (number, left)) =
        some (value, rest)) : left = rest ∧ ∃ number, value = .real number := by
  split at read
  · split at read
    · cases read
    · cases read
      exact ⟨rfl, _, rfl⟩
  · rcases Option.bind_eq_some_iff.mp read with ⟨number, scaled, same⟩
    cases same
    exact ⟨rfl, scaledReal?_eq_some scaled⟩

theorem readExponent_spelled {isNegative : Bool} {significand : Nat} {power : Int}
    {characters rest : List Char} {value : Json}
    (read : readExponent isNegative significand power characters = some (value, rest)) :
    ∃ sign digits, (sign = [] ∨ sign = ['+'] ∨ sign = ['-']) ∧ IsDigits digits ∧
      characters = sign ++ (digits ++ rest) ∧ ∃ number, value = .real number := by
  unfold readExponent at read
  dsimp only at read
  split at read
  case h_1 tail =>
    rcases digits_of_read read with ⟨read, isDigits, taken⟩
    rcases real_of_power read with ⟨rfl, isReal⟩
    exact ⟨['+'], _, .inr (.inl rfl), isDigits, congrArg ('+' :: ·) taken, isReal⟩
  case h_2 tail =>
    rcases digits_of_read read with ⟨read, isDigits, taken⟩
    rcases real_of_power read with ⟨rfl, isReal⟩
    exact ⟨['-'], _, .inr (.inr rfl), isDigits, congrArg ('-' :: ·) taken, isReal⟩
  case h_3 =>
    rcases digits_of_read read with ⟨read, isDigits, taken⟩
    rcases real_of_power read with ⟨rfl, isReal⟩
    exact ⟨[], _, .inl rfl, isDigits, taken, isReal⟩

theorem IsExponent.of_read {mark : Char} (marked : mark = 'e' ∨ mark = 'E') {isNegative : Bool}
    {significand : Nat} {power : Int} {characters rest : List Char} {value : Json}
    (read : readExponent isNegative significand power characters = some (value, rest)) :
    ∃ exponent, IsExponent exponent ∧ mark :: characters = exponent ++ rest ∧
      ∃ number, value = .real number := by
  rcases readExponent_spelled read with ⟨sign, digits, signed, isDigits, rfl, isReal⟩
  exact ⟨_, .power marked signed isDigits, by simp, isReal⟩

theorem readScaled_spelled {isNegative : Bool} {significand : Nat} {power : Int}
    {characters rest : List Char} {value : Json}
    (read : readScaled isNegative significand power characters = some (value, rest)) :
    ∃ fraction exponent, IsFraction fraction ∧ IsExponent exponent ∧
      characters = fraction ++ (exponent ++ rest) ∧ ∃ number, value = .real number := by
  have plain : ∀ {scaled : Option Json} {left : List Char},
      (scaled.bind fun number => some (number, left)) = some (value, rest) →
      scaled = some value ∧ left = rest := by
    intro scaled left read
    rcases Option.bind_eq_some_iff.mp read with ⟨number, found, same⟩
    cases same
    exact ⟨found, rfl⟩
  unfold readScaled at read
  split at read
  · rename_i tail
    dsimp only at read
    rcases digits_of_read read with ⟨read, isDigits, taken⟩
    generalize (tail.span Digits.isDecimal).1 = digits at read isDigits taken
    generalize (tail.span Digits.isDecimal).2 = left at read taken
    rw [taken]
    split at read
    · rcases IsExponent.of_read (.inl rfl) read with ⟨exponent, isExponent, same, isReal⟩
      exact ⟨_, exponent, .point isDigits, isExponent, by rw [same]; rfl, isReal⟩
    · rcases IsExponent.of_read (.inr rfl) read with ⟨exponent, isExponent, same, isReal⟩
      exact ⟨_, exponent, .point isDigits, isExponent, by rw [same]; rfl, isReal⟩
    · rcases plain read with ⟨scaled, rfl⟩
      exact ⟨_, [], .point isDigits, .none, rfl, scaledReal?_eq_some scaled⟩
  · rcases IsExponent.of_read (.inl rfl) read with ⟨exponent, isExponent, same, isReal⟩
    exact ⟨[], exponent, .none, isExponent, same, isReal⟩
  · rcases IsExponent.of_read (.inr rfl) read with ⟨exponent, isExponent, same, isReal⟩
    exact ⟨[], exponent, .none, isExponent, same, isReal⟩
  · rcases plain read with ⟨scaled, rfl⟩
    exact ⟨[], [], .none, .none, rfl, scaledReal?_eq_some scaled⟩

theorem readNumber_spelled {isNegative : Bool} {characters rest : List Char} {value : Json}
    (read : readNumber isNegative characters = some (value, rest)) :
    ∃ digits fraction exponent, IsWholePart digits ∧ IsFraction fraction ∧ IsExponent exponent ∧
      characters = digits ++ (fraction ++ (exponent ++ rest)) ∧
      ((∃ number, value = .whole number) ∨ ∃ number, value = .real number) := by
  unfold readNumber at read
  rw [List.span_eq_takeWhile_dropWhile] at read
  dsimp only at read
  have decimal : ∀ digit ∈ characters.takeWhile Digits.isDecimal,
      Digits.isDecimal digit = true := List.all_eq_true.mp List.all_takeWhile
  have taken : characters = characters.takeWhile Digits.isDecimal ++
      characters.dropWhile Digits.isDecimal := List.takeWhile_append_dropWhile.symm
  generalize characters.takeWhile Digits.isDecimal = digits at read decimal taken
  generalize characters.dropWhile Digits.isDecimal = left at read taken
  rw [taken]
  split at read
  · cases read
  · cases read
  · rename_i nonempty unpadded
    have isWholePart : IsWholePart digits :=
      ⟨⟨nonempty, decimal⟩, fun second rest same => unpadded _ _ same⟩
    have goes_on : ∀ {significand dropped : Nat},
        readScaled isNegative significand dropped left = some (value, rest) →
        ∃ whole fraction exponent, IsWholePart whole ∧ IsFraction fraction ∧
          IsExponent exponent ∧ digits ++ left = whole ++ (fraction ++ (exponent ++ rest)) ∧
          ((∃ number, value = .whole number) ∨ ∃ number, value = .real number) := by
      intro significand dropped read
      rcases readScaled_spelled read with
        ⟨fraction, exponent, isFraction, isExponent, rfl, isReal⟩
      exact ⟨digits, fraction, exponent, isWholePart, isFraction, isExponent, rfl, .inr isReal⟩
    rcases takeDigits 0 digits with ⟨significand, count, dropped⟩
    split at read
    · split at read
      · exact goes_on read
      · exact goes_on read
      · exact goes_on read
      · cases read
        refine ⟨digits, [], [], isWholePart, .none, .none, rfl, ?_⟩
        unfold exact
        split
        · split
          · exact .inr ⟨_, rfl⟩
          · exact .inl ⟨_, rfl⟩
        · exact .inl ⟨_, rfl⟩
    · exact goes_on read

theorem IsNumber.of_read {isNegative : Bool} {sign characters rest : List Char} {value : Json}
    (signed : sign = [] ∨ sign = ['-'])
    (read : readNumber isNegative characters = some (value, rest)) :
    value.isSorted = true ∧
      ∃ written, IsNumber written ∧ sign ++ characters = written ++ rest := by
  rcases readNumber_spelled read with
    ⟨digits, fraction, exponent, isWholePart, isFraction, isExponent, rfl, isNumber⟩
  refine ⟨?_, _, .parts signed isWholePart isFraction isExponent, by simp⟩
  rcases isNumber with ⟨number, rfl⟩ | ⟨number, rfl⟩ <;> rfl

/-! ## Values -/

/-- A sorted value was taken from the front of a text, past blanks, that spells a document. -/
structure Takes (characters rest : List Char) (value : Json) : Prop where
  sorted : value.isSorted = true
  spelled : ∃ blanks written document, IsBlanks blanks ∧ Spells written document ∧
    characters = blanks ++ (written ++ rest)

structure TakesItems (characters rest : List Char) (items : List Json) : Prop where
  sorted : ∀ item ∈ items, item.isSorted = true
  spelled : ∃ inside documents, SpellsItems inside documents ∧ characters = inside ++ rest

structure TakesMembers (held : List (String × Json)) (characters rest : List Char)
    (members : List (String × Json)) : Prop where
  sorted : AreSorted held → AreSorted members
  spelled : ∃ inside documents, SpellsMembers inside documents ∧ characters = inside ++ rest

theorem Takes.padded {characters left rest : List Char} {value : Json} {sign : Char}
    (takes : Takes characters left value) (ends : skipBlanks left = sign :: rest) :
    ∃ padded document, SpellsPadded padded document ∧ characters = padded ++ sign :: rest := by
  rcases takes.spelled with ⟨before, written, document, blankBefore, spelled, rfl⟩
  rcases exists_skipBlanks left with ⟨after, blankAfter, skipped⟩
  refine ⟨_, document, .padded blankBefore spelled blankAfter, ?_⟩
  rw [skipped, ends]
  simp

structure ReadersTake (fuel : Nat) : Prop where
  value : ∀ {room : Nat} {characters rest : List Char} {value : Json},
    readValue fuel room characters = some (value, rest) → Takes characters rest value
  embedded : ∀ {characters rest : List Char} {value : Json},
    readEmbedded fuel characters = some (value, rest) → value.isSorted = true ∧
      ∃ padded quoted, SpellsPadded padded (.text quoted) ∧
        characters = padded ++ '\x7d' :: rest
  items : ∀ {room : Nat} {characters rest : List Char} {items : List Json},
    readItems fuel room characters = some (items, rest) → TakesItems characters rest items
  members : ∀ {room : Nat} {held members : List (String × Json)} {characters rest : List Char},
    readMembers fuel room held characters = some (members, rest) →
      TakesMembers held characters rest members

theorem readItems_takes {fuel room : Nat} (earlier : ReadersTake fuel)
    {characters rest : List Char} {items : List Json}
    (read : readItems (fuel + 1) room characters = some (items, rest)) :
    TakesItems characters rest items := by
  rw [readItems] at read
  rcases Option.bind_eq_some_iff.mp read with ⟨⟨item, left⟩, first, followed⟩
  have takes := earlier.value first
  dsimp only at followed
  split at followed
  · rename_i ends
    cases followed
    rcases takes.padded ends with ⟨padded, document, spelled, rfl⟩
    refine ⟨fun other among => ?_, _, _, .last spelled, by simp⟩
    rw [List.mem_singleton.mp among]
    exact takes.sorted
  · rename_i ends
    rcases Option.bind_eq_some_iff.mp followed with ⟨⟨more, last⟩, later, same⟩
    cases same
    rcases takes.padded ends with ⟨padded, document, spelled, rfl⟩
    rcases earlier.items later with ⟨sorted, inside, documents, further, rfl⟩
    exact ⟨List.forall_mem_cons.mpr ⟨takes.sorted, sorted⟩, _, _, .more spelled further, by simp⟩
  · cases followed

theorem readMembers_takes {fuel room : Nat} (earlier : ReadersTake fuel)
    {held members : List (String × Json)} {characters rest : List Char}
    (read : readMembers (fuel + 1) room held characters = some (members, rest)) :
    TakesMembers held characters rest members := by
  rw [readMembers] at read
  rcases Option.bind_eq_some_iff.mp read with ⟨⟨key, quoted⟩, keyed, followed⟩
  rcases readKey_spelled keyed with ⟨name, named, rfl⟩
  rcases Option.bind_eq_some_iff.mp followed with ⟨⟨value, left⟩, first, ended⟩
  have takes := earlier.value first
  dsimp only at ended
  split at ended
  · rename_i ends
    cases ended
    rcases takes.padded ends with ⟨padded, document, spelled, same⟩
    refine ⟨fun sorted => sorted.insertMember takes.sorted key, _, _, .last named spelled, ?_⟩
    rw [same]
    simp
  · rename_i ends
    rcases takes.padded ends with ⟨padded, document, spelled, same⟩
    rcases earlier.members ended with ⟨sorted, inside, documents, further, rfl⟩
    refine ⟨fun before => sorted (before.insertMember takes.sorted key), _, _,
      .more named spelled further, ?_⟩
    rw [same]
    simp
  · cases ended

theorem readEmbedded_takes {fuel : Nat} (earlier : ReadersTake fuel)
    {characters rest : List Char} {value : Json}
    (read : readEmbedded (fuel + 1) characters = some (value, rest)) :
    value.isSorted = true ∧ ∃ padded quoted, SpellsPadded padded (.text quoted) ∧
      characters = padded ++ '\x7d' :: rest := by
  rw [readEmbedded] at read
  rcases Option.bind_eq_some_iff.mp read with ⟨⟨quoted, left⟩, found, inner⟩
  rcases Option.bind_eq_some_iff.mp inner with ⟨⟨embedded, trailing⟩, valued, ended⟩
  rcases readQuoted_spelled found with ⟨before, written, blankBefore, spelled, rfl⟩
  dsimp only at ended
  split at ended
  · rename_i ends
    cases ended
    rcases exists_skipBlanks left with ⟨after, blankAfter, skipped⟩
    refine ⟨(earlier.value valued).sorted, _, quoted,
      .padded blankBefore (.text spelled) blankAfter, ?_⟩
    rw [skipped, ends]
    simp
  · cases ended

theorem Takes.of_skipped {characters left written rest : List Char} {value document : Json}
    (starts : skipBlanks characters = left) (spelled : Spells written document)
    (same : left = written ++ rest) (sorted : value.isSorted = true) :
    Takes characters rest value where
  sorted := sorted
  spelled := by
    rcases exists_skipBlanks characters with ⟨blanks, blank, skipped⟩
    exact ⟨blanks, written, document, blank, spelled, by rw [skipped, starts, same]⟩

/-- What stands between brackets with nothing but blanks between them. -/
theorem exists_closing {characters rest : List Char} {sign : Char}
    (ends : skipBlanks characters = sign :: rest) :
    ∃ blanks, IsBlanks blanks ∧ characters = (blanks ++ [sign]) ++ rest := by
  rcases exists_skipBlanks characters with ⟨blanks, blank, skipped⟩
  exact ⟨blanks, blank, by rw [skipped, ends]; simp⟩

theorem readValue_takes {fuel room : Nat} (earlier : ReadersTake fuel)
    {characters rest : List Char} {value : Json}
    (read : readValue (fuel + 1) room characters = some (value, rest)) :
    Takes characters rest value := by
  rw [readValue] at read
  generalize starts : skipBlanks characters = left at read
  split at read
  case h_1 =>
    cases read
    exact .of_skipped starts .null rfl rfl
  case h_2 =>
    cases read
    exact .of_skipped starts (.flag true) rfl rfl
  case h_3 =>
    cases read
    exact .of_skipped starts (.flag false) rfl rfl
  case h_4 =>
    rcases Option.map_eq_some_iff.mp read with ⟨⟨words, last⟩, found, same⟩
    cases same
    rcases readText_spelled found with ⟨written, spelled, taken⟩
    exact .of_skipped starts (.text spelled) taken rfl
  case h_5 =>
    rcases IsNumber.of_read (.inr rfl) read with ⟨sorted, written, spelled, taken⟩
    exact .of_skipped starts (.real spelled (Binary64.zero false)) taken sorted
  case h_6 tail =>
    cases room with
    | zero => cases read
    | succ room =>
        dsimp only at read
        split at read
        · rename_i ends
          cases read
          rcases exists_closing ends with ⟨blanks, blank, same⟩
          exact .of_skipped starts (.emptyList blank) (congrArg ('[' :: ·) same) rfl
        · rcases Option.map_eq_some_iff.mp read with ⟨⟨items, last⟩, found, same⟩
          cases same
          rw [readItems_skipBlanks] at found
          rcases earlier.items found with ⟨sorted, inside, documents, spelled, same⟩
          exact .of_skipped starts (.list spelled) (congrArg ('[' :: ·) same)
            (everywhereItems_iff.mpr sorted)
  case h_7 tail =>
    cases room with
    | zero => cases read
    | succ room =>
        dsimp only at read
        split at read
        · rename_i ends
          cases read
          rcases exists_closing ends with ⟨blanks, blank, same⟩
          exact .of_skipped starts (.emptyObject blank) (congrArg ('\x7b' :: ·) same) rfl
        · rcases Option.bind_eq_some_iff.mp read with ⟨⟨key, quoted⟩, keyed, read⟩
          rw [readKey_skipBlanks] at keyed
          dsimp only at read
          split at read
          · rename_i embeds
            rcases readKey_spelled keyed with ⟨name, named, same⟩
            rcases earlier.embedded read with ⟨sorted, padded, words, spelled, taken⟩
            refine .of_skipped starts (.object (.last named spelled)) ?_ sorted
            rw [same, taken]
            simp
          · rcases Option.bind_eq_some_iff.mp read with ⟨⟨members, last⟩, found, same⟩
            cases same
            rw [readMembers_skipBlanks] at found
            rcases earlier.members found with ⟨sorted, inside, documents, spelled, same⟩
            exact .of_skipped starts (.object spelled) (congrArg ('\x7b' :: ·) same)
              (sorted AreSorted.nil).object
  case h_8 =>
    rcases IsNumber.of_read (.inl rfl) read with ⟨sorted, written, spelled, taken⟩
    exact .of_skipped starts (.real spelled (Binary64.zero false)) taken sorted

theorem readersTake (fuel : Nat) : ReadersTake fuel := by
  induction fuel with
  | zero => constructor <;> intros <;> contradiction
  | succ fuel earlier =>
      exact {
        value := readValue_takes earlier
        embedded := readEmbedded_takes earlier
        items := readItems_takes earlier
        members := readMembers_takes earlier }

/-- A value is read of nothing but a document, and is sorted. -/
theorem exists_document {text : String} {value : Json} (read : read? text = some value) :
    value.isSorted = true ∧ ∃ document, SpellsPadded text.toList document := by
  unfold read? at read
  dsimp only at read
  split at read
  · rename_i result left found
    split at read
    · rename_i nothing
      cases read
      rcases (readersTake _).value found with ⟨sorted, before, written, document, blank, spelled,
        taken⟩
      rcases exists_skipBlanks left with ⟨after, blankAfter, skipped⟩
      rw [List.isEmpty_iff.mp nothing, List.append_nil] at skipped
      rw [taken, skipped]
      exact ⟨sorted, document, .padded blank spelled blankAfter⟩
    · cases read
  · cases read

end Json

end Bringup
