import Bringup.Config.Override
import Mathlib.Data.List.Induction
import Mathlib.Data.List.TakeDrop
import Mathlib.Data.Nat.Digits.Defs

namespace Bringup

/-! What a text spells.

Whole numbers, numbers with a point and an exponent, and what a text is read as where an entry
is expected. The grammars are given without a reader; what is read is exactly what the text
spells (`Expectation.reads_iff`). -/

namespace Digits

theorem span_append {digits rest : List Char} (decimal : ∀ digit ∈ digits, isDecimal digit = true)
    (ends : ∀ first ∈ rest.head?, isDecimal first = false) :
    (digits ++ rest).span isDecimal = (digits, rest) := by
  have stops : rest.takeWhile isDecimal = [] ∧ rest.dropWhile isDecimal = rest := by
    cases rest with
    | nil => exact ⟨rfl, rfl⟩
    | cons first rest => simp [ends first rfl]
  rw [List.span_eq_takeWhile_dropWhile, List.takeWhile_append_of_pos decimal,
    List.dropWhile_append_of_pos decimal, stops.1, stops.2, List.append_nil]

end Digits

namespace WholeNumber

def IsDecimal (digits : List Char) : Prop :=
  digits ≠ [] ∧ ∀ digit ∈ digits, '0' ≤ digit ∧ digit ≤ '9'

def decimal (digits : List Char) : Nat :=
  Nat.ofDigits 10 (digits.map fun digit => digit.toNat - '0'.toNat).reverse

/-- A text spells a number by its digits, of which there is at least one, after at most one
sign. -/
inductive Spells : List Char → Int → Prop where
  | unsigned {digits : List Char} : IsDecimal digits → Spells digits (decimal digits)
  | plus {digits : List Char} : IsDecimal digits → Spells ('+' :: digits) (decimal digits)
  | minus {digits : List Char} : IsDecimal digits → Spells ('-' :: digits) (-(decimal digits))

theorem isDecimal_digit {digit : Char} :
    Digits.isDecimal digit = true ↔ '0' ≤ digit ∧ digit ≤ '9' := by
  simp [Digits.isDecimal]

theorem value_eq_decimal {digits : List Char}
    (decimals : ∀ digit ∈ digits, '0' ≤ digit ∧ digit ≤ '9') :
    Digits.value 10 digits = decimal digits := by
  induction digits using List.reverseRecOn with
  | nil => rfl
  | append_singleton digits last induction =>
      rw [List.forall_mem_append] at decimals
      have isDecimal := isDecimal_digit.mpr (decimals.2 last (List.mem_singleton_self last))
      rw [Digits.value_append_singleton, induction decimals.1, decimal, decimal, List.map_append,
        List.reverse_append, List.map_singleton, List.reverse_singleton, List.singleton_append,
        Nat.ofDigits_cons, Digits.digit, if_pos isDecimal, Nat.add_comm]

theorem readMagnitude?_eq_some_iff {digits : List Char} {magnitude : Nat} :
    readMagnitude? digits = some magnitude ↔ IsDecimal digits ∧ decimal digits = magnitude := by
  have decimals : (digits ≠ [] ∧ digits.all Digits.isDecimal = true) ↔ IsDecimal digits := by
    simp only [List.all_eq_true, isDecimal_digit, IsDecimal]
  unfold readMagnitude?
  by_cases isDecimal : IsDecimal digits
  · rw [if_pos (decimals.mpr isDecimal), value_eq_decimal isDecimal.2]
    simp [isDecimal]
  · rw [if_neg (mt decimals.mp isDecimal)]
    simp [isDecimal]

theorem fit?_eq_some_iff {negative : Bool} {magnitude : Nat} {number : Int} :
    fit? negative magnitude = some number ↔
      (if negative then -(magnitude : Int) else magnitude) = number ∧
        least ≤ number ∧ number ≤ greatest := by
  unfold fit?
  generalize (if negative then -(magnitude : Int) else magnitude) = signed
  dsimp only
  split
  · rename_i fits
    constructor
    · rintro ⟨⟩
      exact ⟨rfl, fits⟩
    · rintro ⟨rfl, _⟩
      rfl
  · rename_i tooLarge
    constructor
    · rintro ⟨⟩
    · rintro ⟨rfl, fits⟩
      exact absurd fits tooLarge

theorem bind_fit?_eq_some_iff {negative : Bool} {digits : List Char} {number : Int} :
    (readMagnitude? digits).bind (fit? negative) = some number ↔
      IsDecimal digits ∧
        (if negative then -(decimal digits : Int) else decimal digits) = number ∧
        least ≤ number ∧ number ≤ greatest := by
  simp only [Option.bind_eq_some_iff, readMagnitude?_eq_some_iff, fit?_eq_some_iff]
  constructor
  · rintro ⟨_, ⟨isDecimal, rfl⟩, value⟩
    exact ⟨isDecimal, value⟩
  · rintro ⟨isDecimal, value⟩
    exact ⟨_, ⟨isDecimal, rfl⟩, value⟩

theorem spells_minus_iff {digits : List Char} {number : Int} :
    Spells ('-' :: digits) number ↔ IsDecimal digits ∧ -(decimal digits : Int) = number := by
  constructor
  · rintro (⟨_, isDecimal⟩ | _ | isDecimal)
    · exact absurd (isDecimal '-' List.mem_cons_self) (by decide)
    · exact ⟨isDecimal, rfl⟩
  · rintro ⟨isDecimal, rfl⟩
    exact .minus isDecimal

theorem spells_plus_iff {digits : List Char} {number : Int} :
    Spells ('+' :: digits) number ↔ IsDecimal digits ∧ (decimal digits : Int) = number := by
  constructor
  · rintro (⟨_, isDecimal⟩ | isDecimal | _)
    · exact absurd (isDecimal '+' List.mem_cons_self) (by decide)
    · exact ⟨isDecimal, rfl⟩
  · rintro ⟨isDecimal, rfl⟩
    exact .plus isDecimal

theorem spells_iff_of_unsigned {digits : List Char} {number : Int}
    (unsigned : ∀ sign rest, digits = sign :: rest → sign ≠ '-' ∧ sign ≠ '+') :
    Spells digits number ↔ IsDecimal digits ∧ (decimal digits : Int) = number := by
  constructor
  · rintro (isDecimal | _ | _)
    · exact ⟨isDecimal, rfl⟩
    · exact absurd rfl (unsigned _ _ rfl).2
    · exact absurd rfl (unsigned _ _ rfl).1
  · rintro ⟨isDecimal, rfl⟩
    exact .unsigned isDecimal

/-- What is read is what the text spells, unless that takes more than 64 bits. -/
theorem read?_eq_some_iff {text : String} {number : Int} :
    read? text = some number ↔
      Spells text.toList number ∧ least ≤ number ∧ number ≤ greatest := by
  unfold read?
  split
  · rename_i digits spelled
    rw [bind_fit?_eq_some_iff, spelled, spells_minus_iff, and_assoc]
    rfl
  · rename_i digits spelled
    rw [bind_fit?_eq_some_iff, spelled, spells_plus_iff, and_assoc]
    rfl
  · rename_i minus plus
    have unsigned : ∀ sign rest, text.toList = sign :: rest → sign ≠ '-' ∧ sign ≠ '+' := by
      intro sign rest spelled
      constructor <;> rintro rfl
      · exact minus rest spelled
      · exact plus rest spelled
    rw [bind_fit?_eq_some_iff, spells_iff_of_unsigned unsigned, and_assoc]
    rfl

end WholeNumber

namespace Binary64

/-! ## Numbers with a point and an exponent -/

/-- A text gives a power of ten: none at all, or a mark and a whole number. -/
inductive SpellsPower : List Char → Int → Prop where
  | absent : SpellsPower [] 0
  | marked {mark : Char} {digits : List Char} {power : Int} : mark ∈ ['e', 'E'] →
      WholeNumber.Spells digits power → SpellsPower (mark :: digits) power

/-- A text without a sign spells a number by a word in any letter case, or by digits with at
most one point before, among or after them, and a power of ten. -/
inductive SpellsUnsigned (negative : Bool) : List Char → Binary64 → Prop where
  | infinite {letters : List Char} :
      letters.map Char.toLower ∈ ["inf".toList, "infinity".toList] →
      SpellsUnsigned negative letters (.infinite negative)
  | nan {letters : List Char} : letters.map Char.toLower = "nan".toList →
      SpellsUnsigned negative letters .nan
  | decimal {whole point fraction exponent : List Char} {power : Int} :
      WholeNumber.IsDecimal (whole ++ fraction) → point = ['.'] ∨ point = [] ∧ fraction = [] →
      SpellsPower exponent power →
      SpellsUnsigned negative (whole ++ (point ++ fraction ++ exponent))
        (ofDecimal negative (WholeNumber.decimal (whole ++ fraction)) (power - fraction.length))

inductive Spells : List Char → Binary64 → Prop where
  | unsigned {text : List Char} {number : Binary64} : SpellsUnsigned false text number →
      Spells text number
  | plus {text : List Char} {number : Binary64} : SpellsUnsigned false text number →
      Spells ('+' :: text) number
  | minus {text : List Char} {number : Binary64} : SpellsUnsigned true text number →
      Spells ('-' :: text) number

theorem map_readMagnitude?_eq_some_iff {digits : List Char} {signed : Nat → Int} {power : Int} :
    (WholeNumber.readMagnitude? digits).map signed = some power ↔
      WholeNumber.IsDecimal digits ∧ signed (WholeNumber.decimal digits) = power := by
  simp only [Option.map_eq_some_iff, WholeNumber.readMagnitude?_eq_some_iff]
  constructor
  · rintro ⟨_, ⟨isDecimal, rfl⟩, value⟩
    exact ⟨isDecimal, value⟩
  · rintro ⟨isDecimal, value⟩
    exact ⟨_, ⟨isDecimal, rfl⟩, value⟩

theorem readPower?_eq_some_iff {characters : List Char} {power : Int} :
    readPower? characters = some power ↔ WholeNumber.Spells characters power := by
  unfold readPower?
  split
  · exact map_readMagnitude?_eq_some_iff.trans WholeNumber.spells_minus_iff.symm
  · exact map_readMagnitude?_eq_some_iff.trans WholeNumber.spells_plus_iff.symm
  · rename_i minus plus
    have unsigned : ∀ sign rest, characters = sign :: rest → sign ≠ '-' ∧ sign ≠ '+' := by
      rintro sign rest rfl
      constructor <;> rintro rfl
      · exact minus rest rfl
      · exact plus rest rfl
    exact map_readMagnitude?_eq_some_iff.trans (WholeNumber.spells_iff_of_unsigned unsigned).symm

theorem readExponent?_eq_some_iff {characters : List Char} {power : Int} :
    readExponent? characters = some power ↔ SpellsPower characters power := by
  constructor
  · intro read
    cases characters with
    | nil =>
        cases read
        exact .absent
    | cons mark digits =>
        rw [readExponent?] at read
        split at read
        · rename_i marks
          exact .marked (by simpa using marks) (readPower?_eq_some_iff.mp read)
        · cases read
  · rintro (_ | ⟨marks, digits⟩)
    · rfl
    · rw [readExponent?, if_pos (by simpa using marks), readPower?_eq_some_iff.mpr digits]

theorem SpellsPower.head {exponent : List Char} {power : Int} (spells : SpellsPower exponent power)
    {first : Char} (begins : first ∈ exponent.head?) :
    Digits.isDecimal first = false ∧ first ≠ '.' := by
  cases spells with
  | absent => cases begins
  | marked marks =>
      cases begins
      simp only [List.mem_cons, List.not_mem_nil, or_false] at marks
      rcases marks with rfl | rfl <;> decide

theorem Spelled.read?_eq_some {characters : List Char} {spelled : Spelled}
    (read : Spelled.read? characters = some spelled) :
    ∃ point exponent, characters = spelled.whole ++ (point ++ spelled.fraction ++ exponent) ∧
      WholeNumber.IsDecimal (spelled.whole ++ spelled.fraction) ∧
      (point = ['.'] ∨ point = [] ∧ spelled.fraction = []) ∧
      SpellsPower exponent spelled.power := by
  have split (rest : List Char) : ∃ point,
      rest = point ++ (readFraction rest).1 ++ (readFraction rest).2 ∧
        (∀ digit ∈ (readFraction rest).1, Digits.isDecimal digit = true) ∧
        (point = ['.'] ∨ point = [] ∧ (readFraction rest).1 = []) := by
    unfold readFraction
    split
    · rw [List.span_eq_takeWhile_dropWhile]
      refine ⟨['.'], ?_, List.all_eq_true.mp List.all_takeWhile, .inl rfl⟩
      rw [List.append_assoc, List.takeWhile_append_dropWhile, List.singleton_append]
    · exact ⟨[], rfl, by simp, .inr ⟨rfl, rfl⟩⟩
  simp only [Spelled.read?, List.span_eq_takeWhile_dropWhile] at read
  rcases split (characters.dropWhile Digits.isDecimal) with ⟨point, parts, digits, pointed⟩
  split at read
  · cases read
  · rename_i nonempty
    rcases Option.map_eq_some_iff.mp read with ⟨power, exponent, rfl⟩
    refine ⟨point, _, ?_, ⟨?_, ?_⟩, pointed, readExponent?_eq_some_iff.mp exponent⟩
    · rw [← parts, List.takeWhile_append_dropWhile]
    · simpa using nonempty
    · intro digit member
      rw [← WholeNumber.isDecimal_digit]
      rcases List.mem_append.mp member with before | after
      · exact List.all_eq_true.mp List.all_takeWhile digit before
      · exact digits digit after

theorem Spelled.read?_append {whole point fraction exponent : List Char} {power : Int}
    (digits : WholeNumber.IsDecimal (whole ++ fraction))
    (pointed : point = ['.'] ∨ point = [] ∧ fraction = []) (spells : SpellsPower exponent power) :
    Spelled.read? (whole ++ (point ++ fraction ++ exponent)) = some ⟨whole, fraction, power⟩ := by
  have decimal : (∀ digit ∈ whole, Digits.isDecimal digit = true) ∧
      ∀ digit ∈ fraction, Digits.isDecimal digit = true := by
    simpa only [← WholeNumber.isDecimal_digit, List.forall_mem_append] using digits.2
  have nonempty : ¬ (whole.isEmpty && fraction.isEmpty) = true := by
    simpa using digits.1
  have ends : ∀ first ∈ exponent.head?, Digits.isDecimal first = false :=
    fun first begins => (spells.head begins).1
  have power := readExponent?_eq_some_iff.mpr spells
  unfold Spelled.read?
  rcases pointed with rfl | ⟨rfl, rfl⟩
  · have stops : ∀ first ∈ (['.'] ++ fraction ++ exponent).head?,
        Digits.isDecimal first = false := by
      rintro _ ⟨⟩
      decide
    have taken : readFraction (['.'] ++ fraction ++ exponent) = (fraction, exponent) :=
      Digits.span_append decimal.2 ends
    simp only [Digits.span_append decimal.1 stops, taken, nonempty, power, Option.map_some]
    rfl
  · have taken : readFraction exponent = ([], exponent) := by
      unfold readFraction
      split
      · exact absurd rfl (spells.head rfl).2
      · rfl
    simp only [List.nil_append, Digits.span_append decimal.1 ends, taken, nonempty, power,
      Option.map_some]
    rfl

/-- What a number without a word begins with. -/
theorem head_of_decimal {whole point fraction : List Char} (exponent : List Char)
    (digits : WholeNumber.IsDecimal (whole ++ fraction))
    (pointed : point = ['.'] ∨ point = [] ∧ fraction = []) :
    ∃ first rest, whole ++ (point ++ fraction ++ exponent) = first :: rest ∧
      (Digits.isDecimal first = true ∨ first = '.') := by
  cases whole with
  | cons first rest =>
      exact ⟨first, _, rfl, .inl (WholeNumber.isDecimal_digit.mpr (digits.2 first (.head _)))⟩
  | nil =>
      rcases pointed with rfl | ⟨rfl, rfl⟩
      · exact ⟨'.', _, rfl, .inr rfl⟩
      · exact absurd rfl digits.1

/-- Digits and points are not letters. -/
theorem toLower_of_numeric {first : Char} (numeric : Digits.isDecimal first = true ∨ first = '.') :
    first.toLower = first := by
  rcases numeric with digit | rfl
  · have bound : first.val ≤ '9'.val := (WholeNumber.isDecimal_digit.mp digit).2
    refine dif_neg fun upper => ?_
    exact absurd (UInt32.le_trans upper.1 bound) (by decide)
  · rfl

theorem head_of_word {letters : List Char}
    (word : letters.map Char.toLower ∈ ["inf".toList, "infinity".toList] ∨
      letters.map Char.toLower = "nan".toList) :
    ∃ first rest, letters = first :: rest ∧ (first.toLower = 'i' ∨ first.toLower = 'n') := by
  have infinite : ∀ word ∈ ["inf".toList, "infinity".toList], word.head? = some 'i' := by decide
  cases letters with
  | nil => exact absurd word (by decide)
  | cons first rest =>
      refine ⟨first, rest, rfl, word.imp (fun word => ?_) fun word => ?_⟩
      · exact Option.some.inj (infinite _ word)
      · exact Option.some.inj (congrArg List.head? word)

theorem SpellsUnsigned.head {negative : Bool} {sign : Char} {rest : List Char}
    {number : Binary64} (spells : SpellsUnsigned negative (sign :: rest) number) :
    sign ≠ '-' ∧ sign ≠ '+' := by
  generalize text : sign :: rest = characters at spells
  have letter (word : characters.map Char.toLower ∈ ["inf".toList, "infinity".toList] ∨
      characters.map Char.toLower = "nan".toList) : sign ≠ '-' ∧ sign ≠ '+' := by
    rcases head_of_word word with ⟨first, _, begins, named⟩
    rw [← text] at begins
    cases begins
    constructor <;> rintro rfl <;> exact absurd named (by decide)
  cases spells with
  | infinite folded => exact letter (.inl folded)
  | nan folded => exact letter (.inr folded)
  | decimal digits pointed =>
      rcases head_of_decimal _ digits pointed with ⟨first, _, begins, numeric⟩
      rw [← text] at begins
      cases begins
      constructor <;> rintro rfl <;> exact absurd numeric (by decide)

theorem readUnsigned?_eq_some_iff {negative : Bool} {characters : List Char}
    {number : Binary64} :
    readUnsigned? negative characters = some number ↔
      SpellsUnsigned negative characters number := by
  constructor
  · intro read
    simp only [readUnsigned?] at read
    split at read
    · rename_i folded
      cases read
      exact .infinite folded
    · split at read
      · rename_i folded
        cases read
        exact .nan folded
      · rcases Option.map_eq_some_iff.mp read with ⟨spelled, parts, rfl⟩
        rcases Spelled.read?_eq_some parts with ⟨point, exponent, rfl, digits, pointed, power⟩
        rw [Spelled.nearest, WholeNumber.value_eq_decimal digits.2]
        exact .decimal digits pointed power
  · intro spells
    cases spells with
    | infinite folded => exact if_pos folded
    | nan folded =>
        rw [readUnsigned?, folded]
        rfl
    | decimal digits pointed power =>
        rename_i whole point fraction exponent _
        have wordless : ¬ ((whole ++ (point ++ fraction ++ exponent)).map Char.toLower ∈
              ["inf".toList, "infinity".toList] ∨
            (whole ++ (point ++ fraction ++ exponent)).map Char.toLower = "nan".toList) := by
          intro word
          rcases head_of_word word with ⟨first, _, begins, named⟩
          rcases head_of_decimal exponent digits pointed with ⟨_, _, same, numeric⟩
          cases same.symm.trans begins
          rw [toLower_of_numeric numeric] at named
          rcases named with rfl | rfl <;> exact absurd numeric (by decide)
        rcases not_or.mp wordless with ⟨infinite, nan⟩
        rw [readUnsigned?, if_neg infinite, if_neg nan, Spelled.read?_append digits pointed power,
          Option.map_some, Spelled.nearest, WholeNumber.value_eq_decimal digits.2]

theorem read?_eq_some_iff {text : String} {number : Binary64} :
    read? text = some number ↔ Spells text.toList number := by
  unfold read?
  split
  · rename_i characters spelled
    rw [readUnsigned?_eq_some_iff, spelled]
    refine ⟨.minus, ?_⟩
    rintro (unsigned | _ | minus)
    · exact absurd rfl unsigned.head.1
    · exact minus
  · rename_i characters spelled
    rw [readUnsigned?_eq_some_iff, spelled]
    refine ⟨.plus, ?_⟩
    rintro (unsigned | plus | _)
    · exact absurd rfl unsigned.head.2
    · exact plus
  · rename_i minus plus
    rw [readUnsigned?_eq_some_iff]
    refine ⟨.unsigned, ?_⟩
    generalize text.toList = characters at minus plus
    rintro (unsigned | _ | _)
    · exact unsigned
    · exact absurd rfl (plus _)
    · exact absurd rfl (minus _)

end Binary64

namespace Expectation

/-- What a text is read as where an entry is expected. -/
inductive Reads : Expectation → String → Toml.Value → Prop where
  | yes : Reads flag "true" (.flag true)
  | no : Reads flag "false" (.flag false)
  | whole {written : String} {number : Int} : WholeNumber.Spells written.toList number →
      -2 ^ 63 ≤ number → number < 2 ^ 63 → Reads whole written (.whole number)
  | real {written : String} {number : Binary64} : Binary64.Spells written.toList number →
      Reads real written (.real number)
  | text (written : String) : Reads text written (.text written)

theorem reads_iff {expected : Expectation} {written : String} {value : Toml.Value} :
    expected.Reads written value ↔ expected.read? written = some value := by
  cases expected with
  | flag =>
      constructor
      · rintro (_ | _) <;> rfl
      · intro read
        simp only [read?] at read
        split at read
        · rename_i yes
          cases read
          exact yes ▸ .yes
        · split at read
          · rename_i no
            cases read
            exact no ▸ .no
          · cases read
  | whole =>
      have limits : ∀ number : Int, WholeNumber.least ≤ number ∧ number ≤ WholeNumber.greatest ↔
          -2 ^ 63 ≤ number ∧ number < 2 ^ 63 := by
        intro number
        rw [WholeNumber.least, WholeNumber.greatest]
        omega
      simp only [read?, Option.map_eq_some_iff, WholeNumber.read?_eq_some_iff, limits]
      constructor
      · intro reads
        cases reads with
        | whole spells least greatest => exact ⟨_, ⟨spells, least, greatest⟩, rfl⟩
      · rintro ⟨number, ⟨spells, least, greatest⟩, rfl⟩
        exact .whole spells least greatest
  | real =>
      simp only [read?, Option.map_eq_some_iff, Binary64.read?_eq_some_iff]
      constructor
      · intro reads
        cases reads with
        | real spells => exact ⟨_, spells, rfl⟩
      · rintro ⟨number, spells, rfl⟩
        exact .real spells
  | text =>
      constructor
      · rintro ⟨⟩
        rfl
      · rintro ⟨⟩
        exact .text written

theorem not_reads_iff {expected : Expectation} {written : String} :
    (∀ value, ¬ expected.Reads written value) ↔ expected.read? written = none := by
  simp only [reads_iff, Option.eq_none_iff_forall_ne_some, ne_eq]

end Expectation

end Bringup
