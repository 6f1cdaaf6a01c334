import Bringup.Text.Bytes

namespace Bringup

/-! Encoded text is read back.

The encoding of a character is one piece of a sequence of bytes, so whatever follows it is read
as if nothing stood before (`Bytes.pieces_encodeChar`). -/

namespace Bytes

/-! ## Encoded text as a list -/

theorem toList_loop (bytes : ByteArray) (index : Nat) (taken : List UInt8) :
    ByteArray.toList.loop bytes index taken =
      taken.reverse ++ bytes.data.toList.drop index := by
  fun_induction ByteArray.toList.loop bytes index taken with
  | case1 index taken inside induction =>
      have here : index < bytes.data.toList.length := inside
      have byte : bytes.get! index = bytes.data.toList[index] := by
        simp [ByteArray.get!, getElem!_pos bytes.data index inside]
      rw [induction, List.drop_eq_getElem_cons here, byte, List.reverse_cons, List.append_assoc]
      rfl
  | case2 index taken outside =>
      have past : bytes.data.toList.length ≤ index := Nat.not_lt.mp outside
      rw [List.drop_eq_nil_of_le past, List.append_nil]

theorem encode_eq_flatMap (text : String) :
    encode text = text.toList.flatMap String.utf8EncodeChar := by
  have spelled : text.toByteArray = text.toList.utf8Encode := by
    rw [← String.toByteArray_ofList, String.ofList_toList]
  rw [encode, String.toUTF8, ByteArray.toList, toList_loop, spelled, List.utf8Encode,
    List.data_toByteArray]
  rfl

/-! ## Reading one character -/

theorem shape?_eq (lead : UInt8) :
    shape? lead =
      if 0xC2 ≤ lead.toNat ∧ lead.toNat ≤ 0xDF then some (1, 0x80, 0xBF, lead.toNat - 0xC0)
      else if lead.toNat = 0xE0 then some (2, 0xA0, 0xBF, 0)
      else if lead.toNat = 0xED then some (2, 0x80, 0x9F, 0xD)
      else if 0xE1 ≤ lead.toNat ∧ lead.toNat ≤ 0xEF then
        some (2, 0x80, 0xBF, lead.toNat - 0xE0)
      else if lead.toNat = 0xF0 then some (3, 0x90, 0xBF, 0)
      else if 0xF1 ≤ lead.toNat ∧ lead.toNat ≤ 0xF3 then
        some (3, 0x80, 0xBF, lead.toNat - 0xF0)
      else if lead.toNat = 0xF4 then some (3, 0x80, 0x8F, 4)
      else none := by
  simp only [shape?, UInt8.le_iff_toNat_le, ← UInt8.toNat_inj]
  rfl

def tail (number : Nat) : UInt8 := UInt8.ofNat (number % 64 + 128)

theorem toNat_tail (number : Nat) : (tail number).toNat = number % 64 + 128 := by
  simp [tail]
  omega

theorem follow_tail {count : Nat} {low high : UInt8} {code number : Nat} {rest : List UInt8}
    (above : low.toNat ≤ number % 64 + 128) (below : number % 64 + 128 ≤ high.toNat) :
    follow (count + 1) low high code (tail number :: rest) =
      ((follow count 0x80 0xBF (64 * code + number % 64) rest).1 + 1,
        (follow count 0x80 0xBF (64 * code + number % 64) rest).2) := by
  have within : low ≤ tail number ∧ tail number ≤ high := by
    rw [UInt8.le_iff_toNat_le, UInt8.le_iff_toNat_le, toNat_tail]
    exact ⟨above, below⟩
  rw [follow, if_pos within, toNat_tail, Nat.add_sub_cancel]

theorem pieces_skip (skipped rest : List UInt8) :
    pieces skipped.length (skipped ++ rest) = pieces 0 rest := by
  induction skipped with
  | nil => rfl
  | cons byte skipped induction =>
      rw [List.length_cons, List.cons_append, pieces, induction]

theorem pieces_lead {lead low high : UInt8} {bits code : Nat} {continuing rest : List UInt8}
    (leads : 0x80 ≤ lead.toNat)
    (shape : shape? lead = some (continuing.length, low, high, bits))
    (follows : follow continuing.length low high bits (continuing ++ rest) =
      (continuing.length, code)) :
    pieces 0 (lead :: continuing ++ rest) = some (Char.ofNat code) :: pieces 0 rest := by
  have wide : ¬ lead < 0x80 := by
    rw [UInt8.lt_iff_toNat_lt]
    exact Nat.not_lt.mpr leads
  rw [List.cons_append, pieces, if_neg wide, shape]
  simp only [follows, if_true, pieces_skip]

theorem pieces_two {number : Nat} (above : 0x80 ≤ number) (below : number < 0x800)
    (rest : List UInt8) :
    pieces 0 (UInt8.ofNat (number / 64 % 32 + 192) :: [tail number] ++ rest) =
      some (Char.ofNat number) :: pieces 0 rest := by
  have lead : (UInt8.ofNat (number / 64 % 32 + 192)).toNat = number / 64 + 192 := by
    simp
    omega
  apply pieces_lead (by omega)
  · rw [shape?_eq, lead, if_pos (by omega)]
    rfl
  · rw [List.length_singleton, List.singleton_append, follow_tail (by simp) (by simp; omega)]
    simp only [follow]
    congr 1
    omega

/-- The shape of the lead among three bytes, which keeps the codes of surrogates away. -/
theorem shape?_three {number : Nat} (above : 0x800 ≤ number) (below : number < 0x10000)
    (valid : number < 0xD800 ∨ 0xDFFF < number) {lead : UInt8}
    (leads : lead.toNat = number / 4096 + 224) :
    ∃ low high, shape? lead = some (2, low, high, number / 4096) ∧
      low.toNat ≤ number / 64 % 64 + 128 ∧ number / 64 % 64 + 128 ≤ high.toNat := by
  rw [shape?_eq, leads, if_neg (by omega)]
  by_cases least : number / 4096 = 0
  · rw [if_pos (by omega), least]
    exact ⟨_, _, rfl, by simp; omega, by simp; omega⟩
  · rw [if_neg (by omega)]
    by_cases surrogate : number / 4096 = 13
    · rw [if_pos (by omega), surrogate]
      exact ⟨_, _, rfl, by simp, by simp; omega⟩
    · rw [if_neg (by omega), if_pos (by omega), Nat.add_sub_cancel]
      exact ⟨_, _, rfl, by simp, by simp; omega⟩

theorem pieces_three {number : Nat} (above : 0x800 ≤ number) (below : number < 0x10000)
    (valid : number < 0xD800 ∨ 0xDFFF < number) (rest : List UInt8) :
    pieces 0 (UInt8.ofNat (number / 4096 % 16 + 224) :: [tail (number / 64), tail number] ++
      rest) = some (Char.ofNat number) :: pieces 0 rest := by
  have leads : (UInt8.ofNat (number / 4096 % 16 + 224)).toNat = number / 4096 + 224 := by
    simp
    omega
  rcases shape?_three above below valid leads with ⟨low, high, shape, least, greatest⟩
  apply pieces_lead (by omega) shape
  simp only [List.length_cons, List.length_nil, List.cons_append, List.nil_append]
  rw [follow_tail least greatest, follow_tail (by simp) (by simp; omega)]
  simp only [follow]
  congr 1
  omega

theorem shape?_four {number : Nat} (above : 0x10000 ≤ number) (below : number < 0x110000)
    {lead : UInt8} (leads : lead.toNat = number / 262144 + 240) :
    ∃ low high, shape? lead = some (3, low, high, number / 262144) ∧
      low.toNat ≤ number / 4096 % 64 + 128 ∧ number / 4096 % 64 + 128 ≤ high.toNat := by
  rw [shape?_eq, leads, if_neg (by omega), if_neg (by omega), if_neg (by omega),
    if_neg (by omega)]
  by_cases least : number / 262144 = 0
  · rw [if_pos (by omega), least]
    exact ⟨_, _, rfl, by simp; omega, by simp; omega⟩
  · rw [if_neg (by omega)]
    by_cases greatest : number / 262144 = 4
    · rw [if_neg (by omega), if_pos (by omega), greatest]
      exact ⟨_, _, rfl, by simp, by simp; omega⟩
    · rw [if_pos (by omega), Nat.add_sub_cancel]
      exact ⟨_, _, rfl, by simp, by simp; omega⟩

theorem pieces_four {number : Nat} (above : 0x10000 ≤ number) (below : number < 0x110000)
    (rest : List UInt8) :
    pieces 0 (UInt8.ofNat (number / 262144 % 8 + 240) ::
      [tail (number / 4096), tail (number / 64), tail number] ++ rest) =
      some (Char.ofNat number) :: pieces 0 rest := by
  have leads : (UInt8.ofNat (number / 262144 % 8 + 240)).toNat = number / 262144 + 240 := by
    simp
    omega
  rcases shape?_four above below leads with ⟨low, high, shape, least, greatest⟩
  apply pieces_lead (by omega) shape
  simp only [List.length_cons, List.length_nil, List.cons_append, List.nil_append]
  rw [follow_tail least greatest, follow_tail (by simp) (by simp; omega),
    follow_tail (by simp) (by simp; omega)]
  simp only [follow]
  congr 1
  omega

theorem pieces_encodeChar (character : Char) (rest : List UInt8) :
    pieces 0 (String.utf8EncodeChar character ++ rest) = some character :: pieces 0 rest := by
  have code : Char.ofNat character.val.toNat = character := Char.ofNat_toNat character
  have valid : character.val.toNat < 0xD800 ∨
      0xDFFF < character.val.toNat ∧ character.val.toNat < 0x110000 := character.valid
  unfold String.utf8EncodeChar
  generalize character.val.toNat = number at code valid
  rw [← code]
  dsimp only
  split
  · rename_i ascii
    have byte : (UInt8.ofNat number).toNat = number := by
      simp
      omega
    have narrow : UInt8.ofNat number < 0x80 := by
      rw [UInt8.lt_iff_toNat_lt, byte]
      exact Nat.lt_succ_of_le ascii
    rw [List.singleton_append, pieces, if_pos narrow, byte]
  · split
    · exact pieces_two (by omega) (by omega) rest
    · split
      · exact pieces_three (by omega) (by omega) (by omega) rest
      · exact pieces_four (by omega) (by omega) rest

/-- Encoded text is well formed, so also the lenient reader changes nothing. -/
theorem decodeLenient_encode (text : String) : decodeLenient (encode text) = text := by
  have read : pieces 0 (encode text) = text.toList.map some := by
    rw [encode_eq_flatMap]
    induction text.toList with
    | nil => rfl
    | cons character rest induction =>
        rw [List.flatMap_cons, pieces_encodeChar, induction, List.map_cons]
  rw [decodeLenient, read, List.map_map]
  change String.ofList (text.toList.map id) = text
  rw [List.map_id, String.ofList_toList]

end Bytes

end Bringup
