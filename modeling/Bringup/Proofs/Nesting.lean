import Bringup.Proofs.Accepting

namespace Bringup

namespace Json

/-! Nothing is read that is nested too deep.

A reader may refuse a document for its numbers or for what an object of it quotes. Whenever it
takes one, it takes it up to its end, and each list and each object in it took up room
(`Json.SpellsPadded.depth_le`). -/

/-! ## Numbers -/

theorem IsDigits.exists_cons {digits : List Char} (isDigits : IsDigits digits) :
    ∃ first more, digits = first :: more ∧ Digits.isDecimal first = true := by
  cases digits with
  | nil => exact absurd rfl isDigits.nonempty
  | cons first more => exact ⟨first, more, rfl, isDigits.decimal first (.head _)⟩

theorem readExponent_left {sign digits rest left : List Char}
    (signed : sign = [] ∨ sign = ['+'] ∨ sign = ['-']) (isDigits : IsDigits digits)
    (ends : EndsNumber rest) {isNegative : Bool} {significand : Nat} {power : Int} {value : Json}
    (read : readExponent isNegative significand power (sign ++ (digits ++ rest)) =
      some (value, left)) : left = rest := by
  have span := Digits.span_append isDigits.decimal fun first among => (ends first among).1
  have nonempty : digits.isEmpty = false := by simpa using isDigits.nonempty
  unfold readExponent at read
  rcases signed with rfl | rfl | rfl
  · rcases isDigits.exists_cons with ⟨first, more, rfl, decimal⟩
    rw [List.nil_append] at read
    dsimp only at read
    split at read
    · rename_i same
      cases (List.cons.inj same).1
      cases decimal
    · rename_i same
      cases (List.cons.inj same).1
      cases decimal
    · simp only [span, nonempty] at read
      exact (real_of_power read).1.symm
  · simp only [List.cons_append, List.nil_append, span, nonempty] at read
    exact (real_of_power read).1.symm
  · simp only [List.cons_append, List.nil_append, span, nonempty] at read
    exact (real_of_power read).1.symm

theorem IsExponent.stops {exponent rest : List Char} (isExponent : IsExponent exponent)
    (ends : EndsNumber rest) :
    ∀ first ∈ (exponent ++ rest).head?, Digits.isDecimal first = false := by
  cases isExponent with
  | none => exact fun first among => (ends first among).1
  | power marked _ _ =>
      rintro _ ⟨⟩
      rcases marked with rfl | rfl <;> rfl

theorem IsFraction.stops {fraction rest : List Char} (isFraction : IsFraction fraction)
    (stops : ∀ first ∈ rest.head?, Digits.isDecimal first = false) :
    ∀ first ∈ (fraction ++ rest).head?, Digits.isDecimal first = false := by
  cases isFraction with
  | none => exact stops
  | point _ =>
      rintro _ ⟨⟩
      rfl

theorem readScaled_left {fraction exponent rest left : List Char}
    (isFraction : IsFraction fraction) (isExponent : IsExponent exponent)
    (ends : EndsNumber rest) {isNegative : Bool} {significand : Nat} {power : Int} {value : Json}
    (read : readScaled isNegative significand power (fraction ++ (exponent ++ rest)) =
      some (value, left)) : left = rest := by
  have plain : ∀ {scaled : Option Json} {tail : List Char},
      (scaled.bind fun number => some (number, tail)) = some (value, left) → left = tail := by
    intro scaled tail read
    rcases Option.bind_eq_some_iff.mp read with ⟨number, _, same⟩
    cases same
    rfl
  have begins : ∀ {sign : Char} {tail : List Char}, rest = sign :: tail →
      sign ≠ '.' ∧ sign ≠ 'e' ∧ sign ≠ 'E' := fun same => (ends _ (by rw [same]; rfl)).2
  cases isFraction with
  | none =>
      cases isExponent with
      | none =>
          unfold readScaled at read
          split at read
          · rename_i same
            exact absurd rfl (begins same).1
          · rename_i same
            exact absurd rfl (begins same).2.1
          · rename_i same
            exact absurd rfl (begins same).2.2
          · exact plain read
      | power marked signed isDigits =>
          rw [List.nil_append, List.cons_append, List.append_assoc] at read
          rcases marked with rfl | rfl <;> exact readExponent_left signed isDigits ends read
  | point isDigits =>
      have span := Digits.span_append isDigits.decimal (isExponent.stops ends)
      have nonempty := isDigits.nonempty
      rw [List.cons_append, readScaled] at read
      simp only [span, List.isEmpty_iff, nonempty, if_false] at read
      cases isExponent with
      | none =>
          rw [List.nil_append] at read
          split at read
          · exact absurd rfl (begins rfl).2.1
          · exact absurd rfl (begins rfl).2.2
          · exact plain read
      | power marked signed isDigits =>
          rw [List.cons_append, List.append_assoc] at read
          rcases marked with rfl | rfl <;> exact readExponent_left signed isDigits ends read

theorem readNumber_left {digits fraction exponent rest left : List Char}
    (isWholePart : IsWholePart digits) (isFraction : IsFraction fraction)
    (isExponent : IsExponent exponent) (ends : EndsNumber rest) {isNegative : Bool} {value : Json}
    (read : readNumber isNegative (digits ++ (fraction ++ (exponent ++ rest))) =
      some (value, left)) : left = rest := by
  have span := Digits.span_append isWholePart.decimal (isFraction.stops (isExponent.stops ends))
  have goes_on : ∀ {significand : Nat} {power : Int},
      readScaled isNegative significand power (fraction ++ (exponent ++ rest)) =
        some (value, left) → left = rest :=
    fun read => readScaled_left isFraction isExponent ends read
  unfold readNumber at read
  simp only [span] at read
  split at read
  · cases read
  · cases read
  · split at read
    · split at read
      · exact goes_on read
      · exact goes_on read
      · exact goes_on read
      · rename_i noPoint noMark noCapital
        cases read
        cases isFraction with
        | none =>
            cases isExponent with
            | none => rfl
            | power marked _ _ => rcases marked with rfl | rfl <;> simp at noMark noCapital
        | point _ => simp at noPoint
    · exact goes_on read

/-! ## Values -/

/-- Whatever is read where a value is spelled ends with it, and there was room for the value. -/
def Confines (written : List Char) (value : Json) : Prop :=
  ∀ (fuel room : Nat) (rest left : List Char) (found : Json), EndsNumber rest →
    readValue fuel room (written ++ rest) = some (found, left) →
      left = rest ∧ value.depth ≤ room

def ConfinesItems (inside : List Char) (items : List Json) : Prop :=
  ∀ (fuel room : Nat) (rest left : List Char) (found : List Json),
    readItems fuel room (inside ++ rest) = some (found, left) →
      left = rest ∧ depthItems items ≤ room

def ConfinesMembers (inside : List Char) (members : List (String × Json)) : Prop :=
  ∀ (fuel room : Nat) (held : List (String × Json)) (rest left : List Char)
    (found : List (String × Json)),
    readMembers fuel room held (inside ++ rest) = some (found, left) →
      left = rest ∧ depthMembers members ≤ room

theorem Confines.of_reads {written : List Char} {value : Json} (flat : value.depth = 0)
    (reads : ∀ (fuel room : Nat) (rest : List Char), EndsNumber rest →
      readValue (fuel + 1) room (written ++ rest) = some (value, rest)) :
    Confines written value := by
  intro fuel room rest left found ends read
  cases fuel with
  | zero => cases read
  | succ fuel =>
      rw [reads fuel room rest ends] at read
      cases read
      exact ⟨rfl, flat ▸ Nat.zero_le room⟩

theorem IsNumber.confines {written : List Char} (isNumber : IsNumber written)
    (number : Binary64) : Confines written (.real number) := by
  intro fuel room rest left found ends read
  refine ⟨?_, Nat.zero_le room⟩
  cases fuel with
  | zero => cases read
  | succ fuel =>
      rcases isNumber with ⟨rfl | rfl, isWholePart, isFraction, isExponent⟩
      · simp only [List.nil_append, List.append_assoc] at read
        rcases isWholePart.exists_cons with ⟨first, more, rfl, decimal⟩
        rw [List.cons_append, readValue_digit decimal, ← List.cons_append] at read
        exact readNumber_left isWholePart isFraction isExponent ends read
      · simp only [List.cons_append, List.nil_append, List.append_assoc] at read
        rw [readValue, skipBlanks_cons (by decide)] at read
        exact readNumber_left isWholePart isFraction isExponent ends read

theorem isBlank_of_ends {sign : Char} (ends : sign ∈ [',', ']', '\x7d']) :
    isBlank sign = false := by
  simp only [List.mem_cons, List.not_mem_nil, or_false] at ends
  rcases ends with rfl | rfl | rfl <;> rfl

theorem Confines.padded {before written after : List Char} {value : Json}
    (confines : Confines written value) (blankBefore : IsBlanks before)
    (blankAfter : IsBlanks after) {sign : Char} (ends : sign ∈ [',', ']', '\x7d'])
    {fuel room : Nat} {rest left : List Char} {found : Json}
    (read : readValue fuel room ((before ++ (written ++ after)) ++ sign :: rest) =
      some (found, left)) :
    skipBlanks left = sign :: rest ∧ value.depth ≤ room := by
  rw [List.append_assoc, List.append_assoc, readValue_append blankBefore] at read
  rcases confines _ _ _ _ _ ((endsNumber_cons ends rest).after blankAfter) read with
    ⟨rfl, fits⟩
  exact ⟨by rw [skipBlanks_append blankAfter, skipBlanks_cons (isBlank_of_ends ends)], fits⟩

theorem confinesItems_last {before written after : List Char} {item : Json}
    (confines : Confines written item) (blankBefore : IsBlanks before)
    (blankAfter : IsBlanks after) :
    ConfinesItems ((before ++ (written ++ after)) ++ [']']) [item] := by
  intro fuel room rest left found read
  cases fuel with
  | zero => cases read
  | succ fuel =>
      rw [readItems, List.append_assoc, List.singleton_append] at read
      rcases Option.bind_eq_some_iff.mp read with ⟨⟨value, after⟩, first, followed⟩
      rcases confines.padded blankBefore blankAfter (by decide) first with ⟨ends, fits⟩
      simp only [ends] at followed
      cases followed
      exact ⟨rfl, Nat.max_le.mpr ⟨fits, Nat.zero_le room⟩⟩

theorem confinesItems_more {before written after later : List Char} {item : Json}
    {items : List Json} (confines : Confines written item) (blankBefore : IsBlanks before)
    (blankAfter : IsBlanks after) (further : ConfinesItems later items) :
    ConfinesItems ((before ++ (written ++ after)) ++ ',' :: later) (item :: items) := by
  intro fuel room rest left found read
  cases fuel with
  | zero => cases read
  | succ fuel =>
      rw [readItems, List.append_assoc, List.cons_append] at read
      rcases Option.bind_eq_some_iff.mp read with ⟨⟨value, after⟩, first, followed⟩
      rcases confines.padded blankBefore blankAfter (by decide) first with ⟨ends, fits⟩
      simp only [ends] at followed
      rcases Option.bind_eq_some_iff.mp followed with ⟨⟨values, last⟩, rest, same⟩
      cases same
      rcases further _ _ _ _ _ rest with ⟨rfl, room⟩
      exact ⟨rfl, Nat.max_le.mpr ⟨fits, room⟩⟩

theorem confinesMembers_last {name before written after : List Char} {key : String}
    {value : Json} (named : SpellsKey name key) (confines : Confines written value)
    (blankBefore : IsBlanks before) (blankAfter : IsBlanks after) :
    ConfinesMembers (name ++ ((before ++ (written ++ after)) ++ ['\x7d'])) [(key, value)] := by
  intro fuel room held rest left found read
  cases fuel with
  | zero => cases read
  | succ fuel =>
      rw [readMembers, List.append_assoc, named.readKey, List.append_assoc,
        List.singleton_append] at read
      rcases Option.bind_eq_some_iff.mp read with ⟨_, ⟨⟩, valued⟩
      rcases Option.bind_eq_some_iff.mp valued with ⟨⟨value, after⟩, first, followed⟩
      rcases confines.padded blankBefore blankAfter (by decide) first with ⟨ends, fits⟩
      simp only [ends] at followed
      cases followed
      exact ⟨rfl, Nat.max_le.mpr ⟨fits, Nat.zero_le room⟩⟩

theorem confinesMembers_more {name before written after later : List Char} {key : String}
    {value : Json} {members : List (String × Json)} (named : SpellsKey name key)
    (confines : Confines written value) (blankBefore : IsBlanks before)
    (blankAfter : IsBlanks after) (further : ConfinesMembers later members) :
    ConfinesMembers (name ++ ((before ++ (written ++ after)) ++ ',' :: later))
      ((key, value) :: members) := by
  intro fuel room held rest left found read
  cases fuel with
  | zero => cases read
  | succ fuel =>
      rw [readMembers, List.append_assoc, named.readKey, List.append_assoc,
        List.cons_append] at read
      rcases Option.bind_eq_some_iff.mp read with ⟨_, ⟨⟩, valued⟩
      rcases Option.bind_eq_some_iff.mp valued with ⟨⟨value, after⟩, first, followed⟩
      rcases confines.padded blankBefore blankAfter (by decide) first with ⟨ends, fits⟩
      simp only [ends] at followed
      rcases further _ _ _ _ _ _ followed with ⟨rfl, room⟩
      exact ⟨rfl, Nat.max_le.mpr ⟨fits, room⟩⟩

theorem confines_list {inside : List Char} {items : List Json}
    (spelled : SpellsItems inside items) (confines : ConfinesItems inside items) :
    Confines ('[' :: inside) (list items) := by
  intro fuel room rest left found _ read
  cases fuel with
  | zero => cases read
  | succ fuel =>
      rw [readValue, List.cons_append, skipBlanks_cons (by decide)] at read
      cases room with
      | zero => cases read
      | succ room =>
          rcases spelled.begins rest with ⟨first, more, starts, other⟩
          simp only [starts] at read
          split at read
          · rename_i closes
            exact absurd (List.cons.inj closes).1 other
          · rcases Option.map_eq_some_iff.mp read with ⟨⟨values, last⟩, itemized, same⟩
            cases same
            rw [← starts, readItems_skipBlanks] at itemized
            rcases confines _ _ _ _ _ itemized with ⟨rfl, fits⟩
            exact ⟨rfl, Nat.succ_le_succ fits⟩

theorem Spells.of_quote {written : List Char} {value : Json} (spelled : Spells written value)
    (quoted : written.head? = some '"') : ∃ words, value = .text words ∧ SpellsText written words := by
  have notDigits : ∀ {digits more : List Char}, IsDigits digits →
      (digits ++ more).head? ≠ some '"' := by
    intro digits more isDigits same
    rcases isDigits.exists_cons with ⟨first, later, rfl, decimal⟩
    cases same
    cases decimal
  cases spelled with
  | text spelled => exact ⟨_, rfl, spelled⟩
  | null | emptyList | list | emptyObject | object => cases quoted
  | flag isSet => cases isSet <;> cases quoted
  | whole =>
      rename_i number _
      rcases writeWhole_cases number with ⟨magnitude, _, written⟩ | ⟨magnitude, _, _, written⟩
      · rw [written, ← List.append_nil (Nat.toDigits 10 magnitude)] at quoted
        exact absurd quoted (notDigits (isDigits_toDigits magnitude))
      · rw [written] at quoted
        cases quoted
  | real spelled =>
      rcases spelled with ⟨rfl | rfl, isWholePart, _, _⟩
      · rw [List.nil_append] at quoted
        exact absurd quoted (notDigits isWholePart.toIsDigits)
      · cases quoted

theorem readQuoted_left {padded rest left : List Char} {value : Json} {sign : Char}
    (spelled : SpellsPadded padded value) (ends : sign ∈ [',', ']', '\x7d']) {words : String}
    (read : readQuoted (padded ++ sign :: rest) = some (words, left)) :
    skipBlanks left = sign :: rest ∧ value.depth = 0 := by
  rcases spelled with ⟨blankBefore, spelled, blankAfter⟩
  rcases spelled.begins with ⟨first, more, written, notBlank, _⟩
  have quoted : first = '"' := by
    unfold readQuoted at read
    rw [List.append_assoc, List.append_assoc, skipBlanks_append blankBefore, written,
      List.cons_append, skipBlanks_cons notBlank] at read
    split at read
    · rename_i same
      exact (List.cons.inj same).1
    · cases read
  rcases spelled.of_quote (by rw [written, quoted]; rfl) with ⟨text, rfl, quotes⟩
  rw [List.append_assoc, List.append_assoc, quotes.readQuoted blankBefore] at read
  cases read
  exact ⟨by rw [skipBlanks_append blankAfter, skipBlanks_cons (isBlank_of_ends ends)], rfl⟩

/-- An object that stands for what it quotes has no other member. -/
theorem readEmbedded_left {inside quoted rest left : List Char} {key : String}
    {members : List (String × Json)} (spelled : SpellsMembers inside members)
    (keyed : readKey (inside ++ rest) = some (key, quoted)) {fuel : Nat} {found : Json}
    (read : readEmbedded fuel quoted = some (found, left)) :
    left = rest ∧ depthMembers members = 0 := by
  cases fuel with
  | zero => cases read
  | succ fuel =>
      rw [readEmbedded] at read
      rcases Option.bind_eq_some_iff.mp read with ⟨⟨words, after⟩, quotes, read⟩
      rcases Option.bind_eq_some_iff.mp read with ⟨⟨value, trailing⟩, _, read⟩
      dsimp only at read
      split at read
      · rename_i closes
        cases read
        cases spelled with
        | last named spelled =>
            rw [List.append_assoc, named.readKey, List.append_assoc, List.singleton_append]
              at keyed
            cases keyed
            rcases readQuoted_left spelled (by decide) quotes with ⟨ends, flat⟩
            rw [ends] at closes
            cases closes
            exact ⟨rfl, by rw [depthMembers, flat]; rfl⟩
        | more named spelled _ =>
            rw [List.append_assoc, named.readKey, List.append_assoc, List.cons_append] at keyed
            cases keyed
            rcases readQuoted_left spelled (by decide) quotes with ⟨ends, _⟩
            rw [ends] at closes
            cases closes
      · cases read

theorem confines_object {inside : List Char} {members : List (String × Json)}
    (spelled : SpellsMembers inside members) (confines : ConfinesMembers inside members) :
    Confines ('\x7b' :: inside) (object members) := by
  intro fuel room rest left found _ read
  cases fuel with
  | zero => cases read
  | succ fuel =>
      rw [readValue, List.cons_append, skipBlanks_cons (by decide)] at read
      cases room with
      | zero => cases read
      | succ room =>
          obtain ⟨more, starts⟩ : ∃ more, skipBlanks (inside ++ rest) = '"' :: more := by
            cases spelled with
            | last named | more named =>
                rw [List.append_assoc]
                exact named.begins _
          simp only [starts] at read
          split at read
          · rename_i closes
            cases closes
          · rcases Option.bind_eq_some_iff.mp read with ⟨⟨key, quoted⟩, keyed, read⟩
            rw [← starts, readKey_skipBlanks] at keyed
            dsimp only at read
            split at read
            · rcases readEmbedded_left spelled keyed read with ⟨rfl, flat⟩
              exact ⟨rfl, by rw [depth, flat]; exact Nat.succ_le_succ (Nat.zero_le room)⟩
            · rcases Option.bind_eq_some_iff.mp read with ⟨⟨values, last⟩, listed, same⟩
              cases same
              rw [← starts, readMembers_skipBlanks] at listed
              rcases confines _ _ _ _ _ _ listed with ⟨rfl, fits⟩
              exact ⟨rfl, Nat.succ_le_succ fits⟩

theorem confines_emptyList {blanks : List Char} (blank : IsBlanks blanks) :
    Confines ('[' :: (blanks ++ [']'])) (list []) := by
  intro fuel room rest left found _ read
  cases fuel with
  | zero => cases read
  | succ fuel =>
      rw [readValue, List.cons_append, List.append_assoc, skipBlanks_cons (by decide)] at read
      cases room with
      | zero => cases read
      | succ room =>
          simp only [skipBlanks_append blank] at read
          cases read
          exact ⟨rfl, Nat.succ_le_succ (Nat.zero_le room)⟩

theorem confines_emptyObject {blanks : List Char} (blank : IsBlanks blanks) :
    Confines ('\x7b' :: (blanks ++ ['\x7d'])) (object []) := by
  intro fuel room rest left found _ read
  cases fuel with
  | zero => cases read
  | succ fuel =>
      rw [readValue, List.cons_append, List.append_assoc, skipBlanks_cons (by decide)] at read
      cases room with
      | zero => cases read
      | succ room =>
          simp only [skipBlanks_append blank] at read
          cases read
          exact ⟨rfl, Nat.succ_le_succ (Nat.zero_le room)⟩

mutual

theorem Spells.confines : ∀ {value : Json} {written : List Char}, Spells written value →
    Confines written value
  | .null, _, .null => .of_reads rfl fun _ _ _ _ => rfl
  | .flag isSet, _, .flag _ => by
      cases isSet <;> exact .of_reads rfl fun _ _ _ _ => rfl
  | .whole _, _, .whole exact =>
      .of_reads rfl fun fuel room _ ends => readValue_whole exact fuel room ends
  | .real number, _, .real isNumber _ => isNumber.confines number
  | .text _, _, .text spelled =>
      .of_reads rfl fun fuel room rest _ => spelled.readValue fuel room rest
  | .list _, _, .emptyList blank => confines_emptyList blank
  | .list _, _, .list spelled => confines_list spelled spelled.confines
  | .object _, _, .emptyObject blank => confines_emptyObject blank
  | .object _, _, .object spelled => confines_object spelled spelled.confines

theorem SpellsItems.confines : ∀ {items : List Json} {inside : List Char},
    SpellsItems inside items → ConfinesItems inside items
  | [], _, spelled => by cases spelled
  | item :: items, _, spelled => by
      cases spelled with
      | last spelled =>
          rcases spelled with ⟨blankBefore, spelled, blankAfter⟩
          exact confinesItems_last spelled.confines blankBefore blankAfter
      | more spelled further =>
          rcases spelled with ⟨blankBefore, spelled, blankAfter⟩
          exact confinesItems_more spelled.confines blankBefore blankAfter further.confines

theorem SpellsMembers.confines : ∀ {members : List (String × Json)} {inside : List Char},
    SpellsMembers inside members → ConfinesMembers inside members
  | [], _, spelled => by cases spelled
  | (key, value) :: members, _, spelled => by
      cases spelled with
      | last named spelled =>
          rcases spelled with ⟨blankBefore, spelled, blankAfter⟩
          exact confinesMembers_last named spelled.confines blankBefore blankAfter
      | more named spelled further =>
          rcases spelled with ⟨blankBefore, spelled, blankAfter⟩
          exact confinesMembers_more named spelled.confines blankBefore blankAfter
            further.confines

end

/-- However a text that is read spells a document, the document is not nested too deep. -/
theorem SpellsPadded.depth_le {text : String} {document value : Json}
    (spelled : SpellsPadded text.toList document) (read : read? text = some value) :
    document.depth ≤ depthLimit := by
  unfold read? at read
  dsimp only at read
  split at read
  · rename_i found
    generalize text.toList = characters at spelled found
    rcases spelled with ⟨blankBefore, spelled, blankAfter⟩
    rw [readValue_append blankBefore] at found
    have none : EndsNumber [] := fun _ member => by cases member
    have ends := none.after blankAfter
    rw [List.append_nil] at ends
    exact (spelled.confines _ _ _ _ _ ends found).2
  · cases read

end Json

end Bringup
