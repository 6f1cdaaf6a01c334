import Bringup.Proofs.Grammar
import Bringup.Proofs.Spelling

namespace Bringup

namespace Json

/-! Documents are read.

In whichever way a document is spelled, its value is read if it is not nested too deep: the
members of its objects stand in the order of their keys, and of a repeated key the last one
counts (`Json.SpellsPadded.read?_eq`). All its numbers are whole numbers of 64 bits, and no object
of it stands for what its value quotes. -/

/-! ## Reading past blanks -/

theorem skipBlanks_append {blanks : List Char} (blank : IsBlanks blanks) (rest : List Char) :
    skipBlanks (blanks ++ rest) = skipBlanks rest :=
  List.dropWhile_append_of_pos blank

theorem exists_skipBlanks (characters : List Char) :
    ∃ blanks, IsBlanks blanks ∧ characters = blanks ++ skipBlanks characters :=
  ⟨characters.takeWhile isBlank, List.all_eq_true.mp List.all_takeWhile,
    List.takeWhile_append_dropWhile.symm⟩

theorem skipBlanks_skipBlanks (characters : List Char) :
    skipBlanks (skipBlanks characters) = skipBlanks characters := by
  rcases exists_skipBlanks characters with ⟨blanks, blank, skipped⟩
  conv_rhs => rw [skipped, skipBlanks_append blank]

theorem readValue_skipBlanks (fuel room : Nat) (characters : List Char) :
    readValue fuel room (skipBlanks characters) = readValue fuel room characters := by
  cases fuel with
  | zero => rw [readValue, readValue]
  | succ fuel => rw [readValue, readValue, skipBlanks_skipBlanks]

theorem readValue_append {blanks : List Char} (blank : IsBlanks blanks) (fuel room : Nat)
    (rest : List Char) : readValue fuel room (blanks ++ rest) = readValue fuel room rest := by
  rw [← readValue_skipBlanks, skipBlanks_append blank, readValue_skipBlanks]

theorem readItems_skipBlanks (fuel room : Nat) (characters : List Char) :
    readItems fuel room (skipBlanks characters) = readItems fuel room characters := by
  cases fuel with
  | zero => rw [readItems, readItems]
  | succ fuel => rw [readItems, readItems, readValue_skipBlanks]

theorem readKey_skipBlanks (characters : List Char) :
    readKey (skipBlanks characters) = readKey characters := by
  rw [readKey, readKey, readQuoted, readQuoted, skipBlanks_skipBlanks]

theorem readMembers_skipBlanks (fuel room : Nat) (held : List (String × Json))
    (characters : List Char) :
    readMembers fuel room held (skipBlanks characters) =
      readMembers fuel room held characters := by
  cases fuel with
  | zero => rw [readMembers, readMembers]
  | succ fuel => rw [readMembers, readMembers, readKey_skipBlanks]

theorem skipBlanks_cons {character : Char} (notBlank : isBlank character = false)
    (rest : List Char) : skipBlanks (character :: rest) = character :: rest := by
  simp [skipBlanks, notBlank]

theorem SpellsText.readQuoted {written : List Char} {text : String}
    (spelled : SpellsText written text) {blanks : List Char} (blank : IsBlanks blanks)
    (rest : List Char) : readQuoted (blanks ++ (written ++ rest)) = some (text, rest) := by
  cases spelled with
  | quoted spelled =>
      rw [Json.readQuoted, skipBlanks_append blank, List.cons_append, List.cons_append,
        List.append_assoc]
      exact spelled.readText rest

theorem SpellsText.readValue {written : List Char} {text : String}
    (spelled : SpellsText written text) (fuel room : Nat) (rest : List Char) :
    readValue (fuel + 1) room (written ++ rest) = some (.text text, rest) := by
  cases spelled with
  | quoted spelled =>
      rw [List.cons_append, List.cons_append, Json.readValue, skipBlanks_cons (by decide)]
      simp only [List.append_assoc, List.singleton_append, spelled.readText]
      rfl

theorem SpellsText.ne_nil {written : List Char} {text : String}
    (spelled : SpellsText written text) : written ≠ [] := by
  cases spelled with
  | quoted => exact List.cons_ne_nil _ _

theorem SpellsKey.readKey {name : List Char} {key : String} (spelled : SpellsKey name key)
    (rest : List Char) : readKey (name ++ rest) = some (key, rest) := by
  cases spelled with
  | padded blankBefore spelled blankAfter =>
      rw [Json.readKey, List.append_assoc, List.append_assoc, spelled.readQuoted blankBefore,
        List.append_assoc]
      simp only [Option.bind_eq_bind, Option.bind_some, skipBlanks_append blankAfter]
      rfl

/-! ## Reading numbers -/

def EndsNumber (rest : List Char) : Prop :=
  ∀ first ∈ rest.head?,
    Digits.isDecimal first = false ∧ first ≠ '.' ∧ first ≠ 'e' ∧ first ≠ 'E'

theorem le_foldl (digits : List Char) (significand : Nat) :
    significand ≤ digits.foldl (fun total digit => 10 * total + Digits.digit digit) significand := by
  induction digits generalizing significand with
  | nil => exact Nat.le_refl _
  | cons first rest induction =>
      have next : significand ≤ 10 * significand + Digits.digit first := by omega
      exact Nat.le_trans next (induction _)

theorem takeDigits_of_fits {digits : List Char} {significand : Nat}
    (fits : digits.foldl (fun total digit => 10 * total + Digits.digit digit) significand ≤
      greatestSignificand) :
    takeDigits significand digits =
      (digits.foldl (fun total digit => 10 * total + Digits.digit digit) significand,
        digits.length, 0) := by
  induction digits generalizing significand with
  | nil => rfl
  | cons first rest induction =>
      rw [List.foldl_cons] at fits
      have next := Nat.le_trans (le_foldl rest _) fits
      simp only [takeDigits, if_pos next, induction fits]
      rfl

theorem isDigits_toDigits (number : Nat) : IsDigits (Nat.toDigits 10 number) :=
  ⟨Nat.toDigits_ne_nil, fun _ => Digits.isDecimal_of_mem_toDigits⟩

theorem head?_toDigits {number : Nat} (positive : 0 < number) :
    (Nat.toDigits 10 number).head? ≠ some '0' := by
  induction number using Nat.strongRecOn with
  | ind number induction =>
      by_cases single : number < 10
      · have digits : ∀ digit < 10, 0 < digit → Nat.digitChar digit ≠ '0' := by decide
        rw [Nat.toDigits_of_lt_base single, List.head?_singleton]
        exact fun zero => digits number single positive (Option.some.inj zero)
      · have shorter := induction (number / 10) (by omega) (by omega)
        rw [Nat.toDigits_of_base_le (by decide) (by omega)]
        cases written : Nat.toDigits 10 (number / 10) with
        | nil => exact absurd written Nat.toDigits_ne_nil
        | cons first rest => rwa [written] at shorter

theorem readNumber_toDigits (magnitude : Nat) (fits : magnitude ≤ greatestSignificand)
    (isNegative : Bool) {rest : List Char} (ends : EndsNumber rest) :
    readNumber isNegative (Nat.toDigits 10 magnitude ++ rest) =
      some (exact isNegative magnitude, rest) := by
  have decimal : ∀ digit ∈ Nat.toDigits 10 magnitude, Digits.isDecimal digit = true :=
    fun _ => Digits.isDecimal_of_mem_toDigits
  have value := Digits.value_toDigits magnitude
  have taken : takeDigits 0 (Nat.toDigits 10 magnitude) =
      (magnitude, (Nat.toDigits 10 magnitude).length, 0) := by
    rw [takeDigits_of_fits (Nat.le_trans (Nat.le_of_eq value) fits)]
    exact congrArg (·, _, 0) value
  rw [readNumber, Digits.span_append decimal fun first among => (ends first among).1]
  simp only []
  split
  · rename_i nothing
    exact absurd nothing Nat.toDigits_ne_nil
  · rename_i second more written
    rcases Nat.eq_zero_or_pos magnitude with rfl | positive
    · cases written
    · exact absurd (congrArg List.head? written) (head?_toDigits positive)
  · simp only [taken, if_true]
    split
    · exact absurd rfl (ends _ rfl).2.1
    · exact absurd rfl (ends _ rfl).2.2.1
    · exact absurd rfl (ends _ rfl).2.2.2
    · rfl

theorem writeWhole_cases (number : Int) :
    (∃ magnitude : Nat, number = magnitude ∧ writeWhole number = Nat.toDigits 10 magnitude) ∨
      ∃ magnitude : Nat, 0 < magnitude ∧ number = -magnitude ∧
        writeWhole number = '-' :: Nat.toDigits 10 magnitude := by
  cases number with
  | ofNat magnitude =>
      refine .inl ⟨magnitude, rfl, ?_⟩
      rw [writeWhole, show toString (Int.ofNat magnitude) = toString magnitude from rfl,
        Nat.toString_eq_ofList_toDigits, String.toList_ofList]
  | negSucc magnitude =>
      refine .inr ⟨magnitude + 1, Nat.succ_pos _, rfl, ?_⟩
      rw [writeWhole, show toString (Int.negSucc magnitude) = "-" ++ toString (magnitude + 1) from
        rfl, String.toList_append, Nat.toString_eq_ofList_toDigits]
      exact congrArg ('-' :: ·) String.toList_ofList

theorem isBlank_of_isDecimal {character : Char} (decimal : Digits.isDecimal character = true) :
    isBlank character = false := by
  cases blank : isBlank character with
  | false => rfl
  | true =>
      simp only [isBlank, Bool.or_eq_true, decide_eq_true_eq] at blank
      rcases blank with ((rfl | rfl) | rfl) | rfl <;> cases decimal

theorem readValue_digit {first : Char} (digit : Digits.isDecimal first = true)
    (fuel room : Nat) (rest : List Char) :
    readValue (fuel + 1) room (first :: rest) = readNumber false (first :: rest) := by
  rw [readValue, skipBlanks_cons (isBlank_of_isDecimal digit)]
  split
  all_goals first
    | (rename_i same
       cases (List.cons.inj same).1
       exact absurd digit (by decide))
    | rfl

theorem readValue_whole {number : Int} (exact : isExact number = true) (fuel room : Nat)
    {rest : List Char} (ends : EndsNumber rest) :
    readValue (fuel + 1) room (writeWhole number ++ rest) = some (whole number, rest) := by
  simp only [isExact, Bool.and_eq_true, decide_eq_true_eq] at exact
  rcases writeWhole_cases number with ⟨magnitude, rfl, written⟩ |
    ⟨magnitude, positive, rfl, written⟩
  · have read := readNumber_toDigits magnitude (by omega) false ends
    rw [written]
    cases digits : Nat.toDigits 10 magnitude with
    | nil => exact absurd digits Nat.toDigits_ne_nil
    | cons first more =>
        have decimal : Digits.isDecimal first = true :=
          (isDigits_toDigits magnitude).decimal first (by simp [digits])
        rw [digits] at read
        rw [List.cons_append, readValue_digit decimal]
        exact read
  · have fits : magnitude ≤ greatestSignificand := by
      simp only [greatestSignificand]
      omega
    have inside : ¬ (magnitude = 0 ∨ 0x8000000000000000 < magnitude) := by omega
    rw [written, List.cons_append, readValue, skipBlanks_cons (by decide)]
    simp only [readNumber_toDigits magnitude fits true ends, Json.exact]
    simp [inside]

/-! ## Reading documents -/

theorem EndsNumber.after {blanks rest : List Char} (blank : IsBlanks blanks)
    (ends : EndsNumber rest) : EndsNumber (blanks ++ rest) := by
  cases blanks with
  | nil => exact ends
  | cons first blanks =>
      rintro _ ⟨⟩
      have isBlank := blank first (.head _)
      simp only [Json.isBlank, Bool.or_eq_true, decide_eq_true_eq] at isBlank
      rcases isBlank with ((rfl | rfl) | rfl) | rfl <;> decide

theorem endsNumber_cons {sign : Char} (other : sign ∈ [',', ']', '\x7d']) (rest : List Char) :
    EndsNumber (sign :: rest) := by
  rintro _ ⟨⟩
  simp only [List.mem_cons, List.not_mem_nil, or_false] at other
  rcases other with rfl | rfl | rfl <;> decide

/-- A sign stands in front that is no blank and ends no list. -/
def Begins (characters : List Char) : Prop :=
  ∃ first rest, characters = first :: rest ∧ isBlank first = false ∧ first ≠ ']'

theorem Begins.append {characters : List Char} (begins : Begins characters) (more : List Char) :
    Begins (characters ++ more) := by
  rcases begins with ⟨first, rest, rfl, notBlank, other⟩
  exact ⟨first, rest ++ more, rfl, notBlank, other⟩

theorem IsDigits.begins {digits : List Char} (isDigits : IsDigits digits) : Begins digits := by
  cases digits with
  | nil => exact absurd rfl isDigits.nonempty
  | cons first rest =>
      have decimal := isDigits.decimal first (.head _)
      refine ⟨first, rest, rfl, isBlank_of_isDecimal decimal, ?_⟩
      rintro rfl
      cases decimal

theorem begins_writeWhole (number : Int) : Begins (writeWhole number) := by
  rcases writeWhole_cases number with ⟨magnitude, _, written⟩ | ⟨magnitude, _, _, written⟩
  · rw [written]
    exact (isDigits_toDigits magnitude).begins
  · exact ⟨'-', _, written, rfl, by decide⟩

theorem Spells.begins {written : List Char} {value : Json} (spelled : Spells written value) :
    Begins written := by
  cases spelled with
  | null => exact ⟨'n', _, rfl, rfl, by decide⟩
  | flag isSet =>
      cases isSet with
      | false => exact ⟨'f', _, rfl, rfl, by decide⟩
      | true => exact ⟨'t', _, rfl, rfl, by decide⟩
  | whole => exact begins_writeWhole _
  | real spelled =>
      rcases spelled with ⟨rfl | rfl, isWholePart, _, _⟩
      · exact isWholePart.begins.append _
      · exact ⟨'-', _, rfl, rfl, by decide⟩
  | text spelled =>
      cases spelled
      exact ⟨'"', _, rfl, rfl, by decide⟩
  | emptyList | list => exact ⟨'[', _, rfl, rfl, by decide⟩
  | emptyObject | object => exact ⟨'\x7b', _, rfl, rfl, by decide⟩

/-- What is read of a spelled value, whatever follows it. -/
def Reads (written : List Char) (value : Json) : Prop :=
  ∀ (fuel room : Nat) (rest : List Char), 2 * written.length ≤ fuel → EndsNumber rest →
    readValue fuel room (written ++ rest) =
      if value.depth ≤ room then some (value.sorted, rest) else none

def ReadsItems (inside : List Char) (items : List Json) : Prop :=
  ∀ (fuel room : Nat) (rest : List Char), 2 * inside.length ≤ fuel →
    readItems fuel room (inside ++ rest) =
      if depthItems items ≤ room then some (sortItems items, rest) else none

def ReadsMembers (inside : List Char) (members : List (String × Json)) : Prop :=
  ∀ (fuel room : Nat) (held : List (String × Json)) (rest : List Char),
    2 * inside.length ≤ fuel →
    readMembers fuel room held (inside ++ rest) =
      if depthMembers members ≤ room then some (sortMembers held members, rest) else none

theorem reads_emptyList {blanks : List Char} (blank : IsBlanks blanks) :
    Reads ('[' :: (blanks ++ [']'])) (list []) := by
  intro fuel room rest enough _
  obtain ⟨fuel, rfl⟩ := Nat.exists_eq_succ_of_ne_zero (n := fuel) (by simp at enough; omega)
  rw [readValue, List.cons_append, List.append_assoc, skipBlanks_cons (by decide)]
  cases room with
  | zero => rfl
  | succ room =>
      simp only [skipBlanks_append blank]
      rfl

theorem reads_emptyObject {blanks : List Char} (blank : IsBlanks blanks) :
    Reads ('\x7b' :: (blanks ++ ['\x7d'])) (object []) := by
  intro fuel room rest enough _
  obtain ⟨fuel, rfl⟩ := Nat.exists_eq_succ_of_ne_zero (n := fuel) (by simp at enough; omega)
  rw [readValue, List.cons_append, List.append_assoc, skipBlanks_cons (by decide)]
  cases room with
  | zero => rfl
  | succ room =>
      simp only [skipBlanks_append blank]
      rfl

theorem Reads.padded {before written after : List Char} {value : Json}
    (reads : Reads written value) (blankBefore : IsBlanks before) (blankAfter : IsBlanks after)
    {sign : Char} (ends : sign ∈ [',', ']', '\x7d']) (fuel room : Nat) (rest : List Char)
    (enough : 2 * (before ++ (written ++ after)).length ≤ fuel) :
    readValue fuel room ((before ++ (written ++ after)) ++ sign :: rest) =
      if value.depth ≤ room then some (value.sorted, after ++ sign :: rest) else none := by
  simp only [List.length_append] at enough
  rw [List.append_assoc, List.append_assoc, readValue_append blankBefore,
    reads fuel room _ (by omega) ((endsNumber_cons ends rest).after blankAfter)]

theorem readsItems_last {before written after : List Char} {item : Json}
    (reads : Reads written item) (blankBefore : IsBlanks before) (blankAfter : IsBlanks after) :
    ReadsItems ((before ++ (written ++ after)) ++ [']']) [item] := by
  intro fuel room rest enough
  rw [List.length_append, List.length_singleton] at enough
  obtain ⟨fuel, rfl⟩ := Nat.exists_eq_succ_of_ne_zero (n := fuel) (by omega)
  have closes : ']' ∈ [',', ']', '\x7d'] := by decide
  have read := reads.padded blankBefore blankAfter closes fuel room rest (by omega)
  rw [readItems, List.append_assoc, List.singleton_append, read, depthItems, depthItems,
    Nat.max_zero]
  split
  · simp only [Option.bind_eq_bind, Option.bind_some, skipBlanks_append blankAfter]
    rfl
  · rfl

theorem readsItems_more {before written after later : List Char} {item : Json}
    {items : List Json} (reads : Reads written item) (blankBefore : IsBlanks before)
    (blankAfter : IsBlanks after) (further : ReadsItems later items) :
    ReadsItems ((before ++ (written ++ after)) ++ ',' :: later) (item :: items) := by
  intro fuel room rest enough
  rw [List.length_append, List.length_cons] at enough
  obtain ⟨fuel, rfl⟩ := Nat.exists_eq_succ_of_ne_zero (n := fuel) (by omega)
  have closes : ',' ∈ [',', ']', '\x7d'] := by decide
  have read := reads.padded blankBefore blankAfter closes fuel room (later ++ rest) (by omega)
  have readLater := further fuel room rest (by omega)
  rw [readItems, List.append_assoc, List.cons_append, read, depthItems]
  by_cases fits : item.depth ≤ room
  · simp only [fits, if_true, Option.bind_eq_bind, Option.bind_some, skipBlanks_append blankAfter,
      skipBlanks_cons (by decide : isBlank ',' = false), readLater, Nat.max_le, true_and]
    by_cases fit : depthItems items ≤ room
    · rw [if_pos fit, if_pos fit]
      rfl
    · rw [if_neg fit, if_neg fit]
      rfl
  · rw [if_neg fits, if_neg (by omega)]
    rfl

theorem readsMembers_last {name before written after : List Char} {key : String} {value : Json}
    (named : SpellsKey name key) (reads : Reads written value) (blankBefore : IsBlanks before)
    (blankAfter : IsBlanks after) :
    ReadsMembers (name ++ ((before ++ (written ++ after)) ++ ['\x7d'])) [(key, value)] := by
  intro fuel room held rest enough
  rw [List.length_append, List.length_append, List.length_singleton] at enough
  obtain ⟨fuel, rfl⟩ := Nat.exists_eq_succ_of_ne_zero (n := fuel) (by omega)
  have closes : '\x7d' ∈ [',', ']', '\x7d'] := by decide
  have read := reads.padded blankBefore blankAfter closes fuel room rest (by omega)
  rw [readMembers, List.append_assoc, named.readKey, List.append_assoc, List.singleton_append,
    depthMembers, depthMembers, Nat.max_zero]
  simp only [Option.bind_eq_bind, Option.bind_some, read]
  split
  · simp only [Option.bind_some, skipBlanks_append blankAfter]
    rfl
  · rfl

theorem readsMembers_more {name before written after later : List Char} {key : String}
    {value : Json} {members : List (String × Json)} (named : SpellsKey name key)
    (reads : Reads written value) (blankBefore : IsBlanks before) (blankAfter : IsBlanks after)
    (further : ReadsMembers later members) :
    ReadsMembers (name ++ ((before ++ (written ++ after)) ++ ',' :: later))
      ((key, value) :: members) := by
  intro fuel room held rest enough
  rw [List.length_append, List.length_append, List.length_cons] at enough
  obtain ⟨fuel, rfl⟩ := Nat.exists_eq_succ_of_ne_zero (n := fuel) (by omega)
  have closes : ',' ∈ [',', ']', '\x7d'] := by decide
  have read := reads.padded blankBefore blankAfter closes fuel room (later ++ rest) (by omega)
  have readLater := further fuel room (insertMember key value.sorted held) rest (by omega)
  rw [readMembers, List.append_assoc, named.readKey, List.append_assoc, List.cons_append,
    depthMembers]
  simp only [Option.bind_eq_bind, Option.bind_some, read]
  by_cases fits : value.depth ≤ room
  · simp only [fits, if_true, Option.bind_some, skipBlanks_append blankAfter,
      skipBlanks_cons (by decide : isBlank ',' = false), readLater, Nat.max_le, true_and]
    rfl
  · rw [if_neg fits, if_neg (by omega)]
    rfl

theorem SpellsItems.begins {inside : List Char} {items : List Json}
    (spelled : SpellsItems inside items) (rest : List Char) :
    ∃ first more, skipBlanks (inside ++ rest) = first :: more ∧ first ≠ ']' := by
  have starts : ∀ {padded : List Char} {item : Json}, SpellsPadded padded item → ∀ more,
      ∃ first rest, skipBlanks (padded ++ more) = first :: rest ∧ first ≠ ']' := by
    rintro _ _ ⟨blankBefore, spelled, _⟩ more
    rcases spelled.begins with ⟨first, rest, rfl, notBlank, other⟩
    rw [List.append_assoc, skipBlanks_append blankBefore, List.cons_append, List.cons_append,
      skipBlanks_cons notBlank]
    exact ⟨first, _, rfl, other⟩
  cases spelled with
  | last spelled | more spelled =>
      rw [List.append_assoc]
      exact starts spelled _

/-- A list is read item by item where it does not end at once. -/
theorem reads_list {inside : List Char} {items : List Json} (spelled : SpellsItems inside items)
    (reads : ReadsItems inside items) : Reads ('[' :: inside) (list items) := by
  intro fuel room rest enough _
  rw [List.length_cons] at enough
  obtain ⟨fuel, rfl⟩ := Nat.exists_eq_succ_of_ne_zero (n := fuel) (by omega)
  rw [readValue, List.cons_append, skipBlanks_cons (by decide)]
  cases room with
  | zero => rfl
  | succ room =>
      rcases spelled.begins rest with ⟨first, more, starts, other⟩
      have read := reads fuel room rest (by omega)
      rw [← readItems_skipBlanks, starts] at read
      simp only [starts, depth, Nat.add_le_add_iff_right]
      split
      · rename_i same
        exact absurd (List.cons.inj same).1 other
      · rw [read]
        split <;> rfl

theorem SpellsKey.begins {name : List Char} {key : String} (spelled : SpellsKey name key)
    (rest : List Char) : ∃ more, skipBlanks (name ++ rest) = '"' :: more := by
  rcases spelled with ⟨blankBefore, ⟨inside⟩, _⟩
  rw [List.append_assoc, skipBlanks_append blankBefore, List.cons_append, List.cons_append,
    List.cons_append, skipBlanks_cons (by decide)]
  exact ⟨_, rfl⟩

/-- An object is read member by member where it stands for no other value. -/
theorem reads_object {inside : List Char} {key : String} {value : Json}
    {members : List (String × Json)} (spelled : SpellsMembers inside ((key, value) :: members))
    (reads : ReadsMembers inside ((key, value) :: members)) (apart : key ≠ embeddingKey) :
    Reads ('\x7b' :: inside) (object ((key, value) :: members)) := by
  intro fuel room rest enough _
  rw [List.length_cons] at enough
  obtain ⟨fuel, rfl⟩ := Nat.exists_eq_succ_of_ne_zero (n := fuel) (by omega)
  rw [readValue, List.cons_append, skipBlanks_cons (by decide)]
  cases room with
  | zero => rfl
  | succ room =>
      have read := reads fuel room [] rest (by omega)
      obtain ⟨named, more, starts⟩ : (∃ quoted, readKey (inside ++ rest) = some (key, quoted)) ∧
          ∃ more, skipBlanks (inside ++ rest) = '"' :: more := by
        cases spelled with
        | last named | more named =>
            rw [List.append_assoc, named.readKey]
            exact ⟨⟨_, rfl⟩, named.begins _⟩
      rcases named with ⟨quoted, named⟩
      rw [← readMembers_skipBlanks, starts] at read
      rw [← readKey_skipBlanks, starts] at named
      simp only [starts, depth, Nat.add_le_add_iff_right]
      split
      · rename_i same
        exact absurd (List.cons.inj same).1 (by decide)
      · simp only [named, Option.bind_eq_bind, Option.bind_some, if_neg apart, read]
        split <;> rfl

theorem reads_scalar {written : List Char} {value : Json} (flat : value.depth = 0)
    (unsorted : value.sorted = value) (nonempty : written ≠ [])
    (reads : ∀ (fuel room : Nat) (rest : List Char), EndsNumber rest →
      readValue (fuel + 1) room (written ++ rest) = some (value, rest)) : Reads written value := by
  intro fuel room rest enough ends
  have positive := List.length_pos_iff.mpr nonempty
  obtain ⟨fuel, rfl⟩ := Nat.exists_eq_succ_of_ne_zero (n := fuel) (by omega)
  rw [reads fuel room rest ends, flat, unsorted, if_pos (Nat.zero_le room)]

mutual

/-- However a document is spelled, it is read as its value sorted, where there is room for it. -/
theorem Spells.reads : ∀ {value : Json} {written : List Char}, Spells written value →
    value.isIntegral = true → value.isDirect = true → Reads written value
  | .null, _, .null, _, _ => reads_scalar rfl rfl (by decide) fun _ _ _ _ => rfl
  | .flag isSet, _, .flag _, _, _ => by
      cases isSet <;> exact reads_scalar rfl rfl (by decide) fun _ _ _ _ => rfl
  | .whole number, _, .whole exact, _, _ => by
      rcases begins_writeWhole number with ⟨first, rest, written, _⟩
      refine reads_scalar rfl rfl (by rw [written]; exact List.cons_ne_nil _ _) ?_
      exact fun fuel room rest ends => readValue_whole exact fuel room ends
  | .real _, _, _, integral, _ => by cases integral
  | .text _, _, .text spelled, _, _ =>
      reads_scalar rfl rfl spelled.ne_nil fun fuel room rest _ => spelled.readValue fuel room rest
  | .list _, _, .emptyList blank, _, _ => reads_emptyList blank
  | .list _, _, .list spelled, integral, direct =>
      reads_list spelled (spelled.reads integral direct)
  | .object _, _, .emptyObject blank, _, _ => reads_emptyObject blank
  | .object ((_, _) :: _), _, .object spelled, integral, direct => by
      rw [isDirect, everywhere, Bool.and_eq_true] at direct
      exact reads_object spelled (spelled.reads integral direct.2) (of_decide_eq_true direct.1)

theorem SpellsItems.reads : ∀ {items : List Json} {inside : List Char},
    SpellsItems inside items → everywhereItems isExactNumber items = true →
      everywhereItems isItself items = true → ReadsItems inside items
  | [], _, spelled, _, _ => by cases spelled
  | item :: items, _, spelled, integral, direct => by
      rw [everywhereItems, Bool.and_eq_true] at integral direct
      cases spelled with
      | last spelled =>
          rcases spelled with ⟨blankBefore, spelled, blankAfter⟩
          exact readsItems_last (spelled.reads integral.1 direct.1) blankBefore blankAfter
      | more spelled further =>
          rcases spelled with ⟨blankBefore, spelled, blankAfter⟩
          exact readsItems_more (spelled.reads integral.1 direct.1) blankBefore blankAfter
            (further.reads integral.2 direct.2)

theorem SpellsMembers.reads : ∀ {members : List (String × Json)} {inside : List Char},
    SpellsMembers inside members → everywhereMembers isExactNumber members = true →
      everywhereMembers isItself members = true → ReadsMembers inside members
  | [], _, spelled, _, _ => by cases spelled
  | (key, value) :: members, _, spelled, integral, direct => by
      rw [everywhereMembers, Bool.and_eq_true] at integral direct
      cases spelled with
      | last named spelled =>
          rcases spelled with ⟨blankBefore, spelled, blankAfter⟩
          exact readsMembers_last named (spelled.reads integral.1 direct.1) blankBefore
            blankAfter
      | more named spelled further =>
          rcases spelled with ⟨blankBefore, spelled, blankAfter⟩
          exact readsMembers_more named (spelled.reads integral.1 direct.1) blankBefore
            blankAfter (further.reads integral.2 direct.2)

end

theorem SpellsPadded.read?_eq {text : String} {document : Json}
    (spelled : SpellsPadded text.toList document) (integral : document.isIntegral = true)
    (direct : document.isDirect = true) :
    read? text = if document.depth ≤ depthLimit then some document.sorted else none := by
  generalize given : text.toList = characters at spelled
  rcases spelled with ⟨blankBefore, spelled, blankAfter⟩
  rename_i before written after
  have nothing : skipBlanks after = [] := by
    have skipped := skipBlanks_append blankAfter []
    rwa [List.append_nil] at skipped
  have ends : EndsNumber after := by
    have none : EndsNumber [] := fun _ member => by cases member
    simpa using none.after blankAfter
  have read := spelled.reads integral direct (2 * (before ++ (written ++ after)).length + 2)
    depthLimit after (by simp only [List.length_append]; omega) ends
  rw [read?]
  simp only [given, readValue_append blankBefore, read]
  by_cases fits : document.depth ≤ depthLimit
  · simp only [if_pos fits, nothing, List.isEmpty_nil, if_true]
  · simp only [if_neg fits]

/-! ## Values that are written -/

theorem sortItems_map (write : α → Json) (items : List α) :
    sortItems (items.map write) = items.map fun item => (write item).sorted := by
  induction items with
  | nil => rfl
  | cons item rest induction => rw [List.map_cons, List.map_cons, sortItems, induction]

/-- A value without numbers that a reader takes who has room for so many levels below it. No
object of it stands for another value. -/
inductive Readable : Nat → Json → Prop
  | null {room} : Readable room null
  | flag {room} (isSet : Bool) : Readable room (flag isSet)
  | text {room} (written : String) : Readable room (text written)
  | list {room} {items : List Json} (each : ∀ item ∈ items, Readable room item) :
      Readable (room + 1) (list items)
  | object {room} {members : List (String × Json)}
      (apart : members.head?.map Prod.fst ≠ some embeddingKey)
      (each : ∀ member ∈ members, Readable room member.2) : Readable (room + 1) (object members)

theorem Readable.list_map {room : Nat} {write : α → Json}
    (each : ∀ item, (write item).Readable room) (items : List α) :
    (Json.list (items.map write)).Readable (room + 1) := by
  apply Readable.list
  intro item member
  rcases List.mem_map.mp member with ⟨source, _, rfl⟩
  exact each source

theorem depthItems_le {items : List Json} {room : Nat} (each : ∀ item ∈ items, item.depth ≤ room) :
    depthItems items ≤ room := by
  induction items with
  | nil => exact Nat.zero_le room
  | cons item rest induction =>
      rw [List.forall_mem_cons] at each
      exact Nat.max_le.mpr ⟨each.1, induction each.2⟩

theorem depthMembers_le {members : List (String × Json)} {room : Nat}
    (each : ∀ member ∈ members, member.2.depth ≤ room) : depthMembers members ≤ room := by
  induction members with
  | nil => exact Nat.zero_le room
  | cons member rest induction =>
      rw [List.forall_mem_cons] at each
      exact Nat.max_le.mpr ⟨each.1, induction each.2⟩

theorem everywhereItems_iff {check : Json → Bool} {items : List Json} :
    everywhereItems check items = true ↔ ∀ item ∈ items, item.everywhere check = true := by
  induction items with
  | nil => simp [everywhereItems]
  | cons item rest induction => simp [everywhereItems, induction]

theorem everywhereMembers_iff {check : Json → Bool} {members : List (String × Json)} :
    everywhereMembers check members = true ↔
      ∀ member ∈ members, member.2.everywhere check = true := by
  induction members with
  | nil => simp [everywhereMembers]
  | cons member rest induction => simp [everywhereMembers, induction]

theorem Readable.isIntegral {room : Nat} {value : Json} (readable : value.Readable room) :
    value.isIntegral = true := by
  induction readable with
  | null | flag | text => rfl
  | list _ induction => exact everywhereItems_iff.mpr induction
  | object _ _ induction =>
      rw [Json.isIntegral, everywhere, Bool.and_eq_true]
      exact ⟨rfl, everywhereMembers_iff.mpr induction⟩

theorem Readable.isDirect {room : Nat} {value : Json} (readable : value.Readable room) :
    value.isDirect = true := by
  induction readable with
  | null | flag | text => rfl
  | list _ induction => exact everywhereItems_iff.mpr induction
  | @object _ members apart _ induction =>
      rw [Json.isDirect, everywhere, Bool.and_eq_true]
      refine ⟨?_, everywhereMembers_iff.mpr induction⟩
      cases members with
      | nil => rfl
      | cons member rest => exact decide_eq_true fun same => apart (congrArg some same)

theorem Readable.depth_le {room : Nat} {value : Json} (readable : value.Readable room) :
    value.depth ≤ room := by
  induction readable with
  | null | flag | text => exact Nat.zero_le _
  | list _ induction => exact Nat.succ_le_succ (depthItems_le induction)
  | object _ _ induction => exact Nat.succ_le_succ (depthMembers_le induction)

/-- A whole text is read back that holds nothing but a value and blanks after it. -/
theorem Layout.IsBlank.read?_write {layout : Layout} (blank : layout.IsBlank) {value : Json}
    (integral : value.isIntegral = true) (direct : value.isDirect = true)
    (fits : value.depth ≤ depthLimit) {after : List Char} (trailing : IsBlanks after) :
    read? (String.ofList (layout.write 0 value ++ after)) = some value.sorted := by
  rw [(blank.spells_written integral trailing).read?_eq integral direct, if_pos fits]

theorem read?_compact {value : Json} (readable : value.Readable depthLimit) :
    read? value.compact = some value.sorted := by
  have read := Layout.isBlank_narrow.read?_write readable.isIntegral readable.isDirect
    readable.depth_le isBlanks_nil
  rwa [List.append_nil, Layout.write_narrow] at read

theorem read?_pretty {value : Json} (readable : value.Readable depthLimit) :
    read? (value.pretty ++ "\n") = some value.sorted := by
  have ended : IsBlanks ['\n'] := by
    simp [IsBlanks, isBlank]
  have read := Layout.isBlank_spread.read?_write readable.isIntegral readable.isDirect
    readable.depth_le ended
  rw [Layout.write_spread, String.ofList_append] at read
  exact read

end Json

end Bringup
