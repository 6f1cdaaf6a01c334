import Bringup.Proofs.Escaping

namespace Bringup

namespace Json

/-! Documents and how they are spelled.

A document is a value whose objects hold their members as they are written, so keys may be
repeated. Blanks may stand around every value and every key. Both written forms of a value are
one writer with two layouts, and spell the value (`Json.Layout.spells_write`). -/

/-! ## Documents -/

mutual

def sorted : Json → Json
  | list items => list (sortItems items)
  | object members => object (sortMembers [] members)
  | value => value

def sortItems : List Json → List Json
  | [] => []
  | item :: rest => item.sorted :: sortItems rest

def sortMembers (held : List (String × Json)) : List (String × Json) → List (String × Json)
  | [] => held
  | (key, value) :: rest => sortMembers (insertMember key value.sorted held) rest

end

mutual

def depth : Json → Nat
  | list items => depthItems items + 1
  | object members => depthMembers members + 1
  | _ => 0

def depthItems : List Json → Nat
  | [] => 0
  | item :: rest => max item.depth (depthItems rest)

def depthMembers : List (String × Json) → Nat
  | [] => 0
  | (_, value) :: rest => max value.depth (depthMembers rest)

end

mutual

def everywhere (check : Json → Bool) : Json → Bool
  | list items => check (list items) && everywhereItems check items
  | object members => check (object members) && everywhereMembers check members
  | value => check value

def everywhereItems (check : Json → Bool) : List Json → Bool
  | [] => true
  | item :: rest => item.everywhere check && everywhereItems check rest

def everywhereMembers (check : Json → Bool) : List (String × Json) → Bool
  | [] => true
  | (_, value) :: rest => value.everywhere check && everywhereMembers check rest

end

/-- Whether a whole number is one of 64 bits, with a sign or without. -/
def isExact (number : Int) : Bool :=
  -0x8000000000000000 ≤ number && number ≤ greatestSignificand

/-- Whether a value is no number but a whole one of 64 bits. -/
def isExactNumber : Json → Bool
  | whole number => isExact number
  | real _ => false
  | _ => true

def isIntegral (value : Json) : Bool := value.everywhere isExactNumber

/-- Whether a value stands for itself and not for what it quotes. -/
def isItself : Json → Bool
  | object ((key, _) :: _) => key ≠ embeddingKey
  | _ => true

def isDirect (value : Json) : Bool := value.everywhere isItself

/-! ## The grammar -/

def IsBlanks (characters : List Char) : Prop :=
  ∀ character ∈ characters, isBlank character = true

theorem isBlanks_nil : IsBlanks [] := fun _ member => by cases member

structure IsDigits (digits : List Char) : Prop where
  nonempty : digits ≠ []
  decimal : ∀ digit ∈ digits, Digits.isDecimal digit = true

structure IsWholePart (digits : List Char) : Prop extends IsDigits digits where
  first : ∀ second rest, digits ≠ '0' :: second :: rest

inductive IsFraction : List Char → Prop
  | none : IsFraction []
  | point {digits : List Char} (isDigits : IsDigits digits) : IsFraction ('.' :: digits)

inductive IsExponent : List Char → Prop
  | none : IsExponent []
  | power {mark : Char} {sign digits : List Char} (marked : mark = 'e' ∨ mark = 'E')
      (signed : sign = [] ∨ sign = ['+'] ∨ sign = ['-']) (isDigits : IsDigits digits) :
      IsExponent (mark :: (sign ++ digits))

inductive IsNumber : List Char → Prop
  | parts {sign digits fraction exponent : List Char} (signed : sign = [] ∨ sign = ['-'])
      (isWholePart : IsWholePart digits) (isFraction : IsFraction fraction)
      (isExponent : IsExponent exponent) :
      IsNumber (sign ++ (digits ++ (fraction ++ exponent)))

inductive SpellsKey : List Char → String → Prop
  | padded {before written after : List Char} {key : String} (blankBefore : IsBlanks before)
      (spelled : SpellsText written key) (blankAfter : IsBlanks after) :
      SpellsKey (before ++ (written ++ (after ++ [':']))) key

mutual

/-- Whole numbers are written plainly. Any number may be taken for any binary number here: the
grammar does not say how to round. -/
inductive Spells : List Char → Json → Prop
  | null : Spells "null".toList .null
  | flag (isSet : Bool) : Spells (writeFlag isSet) (.flag isSet)
  | whole {number : Int} (exact : isExact number = true) :
      Spells (writeWhole number) (.whole number)
  | real {written : List Char} (spelled : IsNumber written) (number : Binary64) :
      Spells written (.real number)
  | text {written : List Char} {text : String} (spelled : SpellsText written text) :
      Spells written (.text text)
  | emptyList {blanks : List Char} (blank : IsBlanks blanks) :
      Spells ('[' :: (blanks ++ [']'])) (.list [])
  | list {inside : List Char} {items : List Json} (spelled : SpellsItems inside items) :
      Spells ('[' :: inside) (.list items)
  | emptyObject {blanks : List Char} (blank : IsBlanks blanks) :
      Spells ('\x7b' :: (blanks ++ ['\x7d'])) (.object [])
  | object {inside : List Char} {members : List (String × Json)}
      (spelled : SpellsMembers inside members) : Spells ('\x7b' :: inside) (.object members)

inductive SpellsPadded : List Char → Json → Prop
  | padded {before written after : List Char} {value : Json} (blankBefore : IsBlanks before)
      (spelled : Spells written value) (blankAfter : IsBlanks after) :
      SpellsPadded (before ++ (written ++ after)) value

inductive SpellsItems : List Char → List Json → Prop
  | last {padded : List Char} {item : Json} (spelled : SpellsPadded padded item) :
      SpellsItems (padded ++ [']']) [item]
  | more {padded later : List Char} {item : Json} {items : List Json}
      (spelled : SpellsPadded padded item) (further : SpellsItems later items) :
      SpellsItems (padded ++ ',' :: later) (item :: items)

inductive SpellsMembers : List Char → List (String × Json) → Prop
  | last {name padded : List Char} {key : String} {value : Json} (named : SpellsKey name key)
      (spelled : SpellsPadded padded value) :
      SpellsMembers (name ++ (padded ++ ['\x7d'])) [(key, value)]
  | more {name padded later : List Char} {key : String} {value : Json}
      {members : List (String × Json)} (named : SpellsKey name key)
      (spelled : SpellsPadded padded value) (further : SpellsMembers later members) :
      SpellsMembers (name ++ (padded ++ ',' :: later)) ((key, value) :: members)

end

/-! ## Layouts -/

/-- What is written between the signs of a value: before an item or a closing sign at a depth,
and after a colon. -/
structure Layout where
  gap : Nat → List Char
  space : List Char

namespace Layout

def narrow : Layout := ⟨fun _ => [], []⟩

def spread : Layout := ⟨newLine, [' ']⟩

mutual

def write (layout : Layout) (depth : Nat) : Json → List Char
  | .null => "null".toList
  | .flag isSet => writeFlag isSet
  | .whole number => writeWhole number
  | .real number => writeReal number
  | .text written => writeText written
  | .list [] => ['[', ']']
  | .list (first :: rest) =>
      '[' :: layout.gap (depth + 1) ++ write layout (depth + 1) first ++
        writeItems layout (depth + 1) rest ++ layout.gap depth ++ [']']
  | .object [] => ['\x7b', '\x7d']
  | .object ((key, value) :: rest) =>
      '\x7b' :: layout.gap (depth + 1) ++ writeText key ++ ':' :: layout.space ++
        write layout (depth + 1) value ++ writeMembers layout (depth + 1) rest ++
        layout.gap depth ++ ['\x7d']

def writeItems (layout : Layout) (depth : Nat) : List Json → List Char
  | [] => []
  | item :: rest =>
      ',' :: layout.gap depth ++ write layout depth item ++ writeItems layout depth rest

def writeMembers (layout : Layout) (depth : Nat) : List (String × Json) → List Char
  | [] => []
  | (key, value) :: rest =>
      ',' :: layout.gap depth ++ writeText key ++ ':' :: layout.space ++
        write layout depth value ++ writeMembers layout depth rest

end

mutual

theorem write_narrow (depth : Nat) : ∀ value : Json, narrow.write depth value = value.writeCompact
  | .null | .flag _ | .whole _ | .real _ | .text _ | .list [] | .object [] => rfl
  | .list (first :: rest) => by
      rw [write, writeCompact, write_narrow, writeItems_narrow]
      simp [narrow]
  | .object ((key, value) :: rest) => by
      rw [write, writeCompact, write_narrow, writeMembers_narrow]
      simp [narrow]

theorem writeItems_narrow (depth : Nat) :
    ∀ items : List Json, narrow.writeItems depth items = Json.writeItems items
  | [] => rfl
  | item :: rest => by
      rw [writeItems, Json.writeItems, write_narrow, writeItems_narrow]
      simp [narrow]

theorem writeMembers_narrow (depth : Nat) : ∀ members : List (String × Json),
    narrow.writeMembers depth members = Json.writeMembers members
  | [] => rfl
  | (key, value) :: rest => by
      rw [writeMembers, Json.writeMembers, write_narrow, writeMembers_narrow]
      simp [narrow]

end

mutual

theorem write_spread (depth : Nat) :
    ∀ value : Json, spread.write depth value = value.writeOpen depth
  | .null | .flag _ | .whole _ | .real _ | .text _ | .list [] | .object [] => rfl
  | .list (first :: rest) => by
      rw [write, writeOpen, write_spread, writeItems_spread]
      rfl
  | .object ((key, value) :: rest) => by
      rw [write, writeOpen, write_spread, writeMembers_spread]
      simp [spread]

theorem writeItems_spread (depth : Nat) :
    ∀ items : List Json, spread.writeItems depth items = writeOpenItems depth items
  | [] => rfl
  | item :: rest => by
      rw [writeItems, writeOpenItems, write_spread, writeItems_spread]
      rfl

theorem writeMembers_spread (depth : Nat) : ∀ members : List (String × Json),
    spread.writeMembers depth members = writeOpenMembers depth members
  | [] => rfl
  | (key, value) :: rest => by
      rw [writeMembers, writeOpenMembers, write_spread, writeMembers_spread]
      simp [spread]

end

structure IsBlank (layout : Layout) : Prop where
  gap : ∀ depth, ∀ character ∈ layout.gap depth, isBlank character = true
  space : ∀ character ∈ layout.space, isBlank character = true

theorem isBlank_narrow : narrow.IsBlank where
  gap depth character member := by cases member
  space character member := by cases member

theorem isBlank_spread : spread.IsBlank where
  gap depth character member := by
    rcases List.mem_cons.mp member with rfl | blank
    · rfl
    · rw [List.eq_of_mem_replicate blank]
      rfl
  space character member := by
    rw [List.mem_singleton.mp member]
    rfl

end Layout

/-! ## What is written -/

namespace Layout

variable {layout : Layout}

theorem spells_writeItems (blank : layout.IsBlank) {depth : Nat} {first : Json}
    {items : List Json}
    (each : ∀ item ∈ first :: items, Spells (layout.write depth item) item)
    {closing : List Char} (closes : IsBlanks closing) :
    SpellsItems (layout.gap depth ++ (layout.write depth first ++
      (layout.writeItems depth items ++ (closing ++ [']'])))) (first :: items) := by
  induction items generalizing first with
  | nil =>
      have spelled := SpellsItems.last (.padded (blank.gap depth) (each first (.head _)) closes)
      simpa [writeItems] using spelled
  | cons second items induction =>
      have further := induction fun item member => each item (.tail _ member)
      have spelled := SpellsItems.more
        (.padded (blank.gap depth) (each first (.head _)) isBlanks_nil) further
      simpa [writeItems] using spelled

theorem spells_writeMembers (blank : layout.IsBlank) {depth : Nat} {key : String} {value : Json}
    {members : List (String × Json)}
    (each : ∀ member ∈ (key, value) :: members, Spells (layout.write depth member.2) member.2)
    {closing : List Char} (closes : IsBlanks closing) :
    SpellsMembers (layout.gap depth ++ (writeText key ++ ':' :: (layout.space ++
      (layout.write depth value ++ (layout.writeMembers depth members ++
        (closing ++ ['\x7d'])))))) ((key, value) :: members) := by
  induction members generalizing key value with
  | nil =>
      have spelled := SpellsMembers.last
        (.padded (blank.gap depth) (spells_writeText key) isBlanks_nil)
        (.padded blank.space (each (key, value) (.head _)) closes)
      simpa [writeMembers] using spelled
  | cons second members induction =>
      have further := induction fun member listed => each member (.tail _ listed)
      have spelled := SpellsMembers.more
        (.padded (blank.gap depth) (spells_writeText key) isBlanks_nil)
        (.padded blank.space (each (key, value) (.head _)) isBlanks_nil) further
      simpa [writeMembers] using spelled

mutual

theorem spells_write (blank : layout.IsBlank) (depth : Nat) : ∀ {value : Json},
    value.isIntegral = true → Spells (layout.write depth value) value
  | .null, _ => .null
  | .flag isSet, _ => .flag isSet
  | .whole _, exact => .whole exact
  | .real _, integral => by cases integral
  | .text words, _ => .text (spells_writeText words)
  | .list items, integral => by
      have each : ∀ item ∈ items, Spells (layout.write (depth + 1) item) item :=
        spells_writeAll blank (depth + 1) integral
      cases items with
      | nil => exact .emptyList isBlanks_nil
      | cons first items =>
          have spelled := Spells.list (spells_writeItems blank each (blank.gap depth))
          simpa [write] using spelled
  | .object members, integral => by
      rw [isIntegral, everywhere, Bool.and_eq_true] at integral
      have each : ∀ member ∈ members, Spells (layout.write (depth + 1) member.2) member.2 :=
        spells_writeEach blank (depth + 1) integral.2
      rcases members with _ | ⟨⟨key, value⟩, members⟩
      · exact .emptyObject isBlanks_nil
      · have spelled := Spells.object (spells_writeMembers blank each (blank.gap depth))
        simpa [write] using spelled

theorem spells_writeAll (blank : layout.IsBlank) (depth : Nat) : ∀ {items : List Json},
    everywhereItems isExactNumber items = true →
      ∀ item ∈ items, Spells (layout.write depth item) item
  | [], _, _, member => by cases member
  | item :: items, integral, other, member => by
      rw [everywhereItems, Bool.and_eq_true] at integral
      rcases List.mem_cons.mp member with same | later
      · rw [same]
        exact spells_write blank depth integral.1
      · exact spells_writeAll blank depth integral.2 other later

theorem spells_writeEach (blank : layout.IsBlank) (depth : Nat) :
    ∀ {members : List (String × Json)}, everywhereMembers isExactNumber members = true →
      ∀ member ∈ members, Spells (layout.write depth member.2) member.2
  | [], _, _, member => by cases member
  | (key, value) :: members, integral, other, member => by
      rw [everywhereMembers, Bool.and_eq_true] at integral
      rcases List.mem_cons.mp member with same | later
      · rw [same]
        exact spells_write blank depth integral.1
      · exact spells_writeEach blank depth integral.2 other later

end

theorem IsBlank.spells_written (blank : layout.IsBlank) {value : Json}
    (integral : value.isIntegral = true) {after : List Char} (trailing : IsBlanks after) :
    SpellsPadded (String.ofList (layout.write 0 value ++ after)).toList value := by
  rw [String.toList_ofList]
  exact .padded isBlanks_nil (spells_write blank 0 integral) trailing

end Layout

end Json

end Bringup
