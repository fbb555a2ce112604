import WebScript.Number.Hex
import WebScript.Proofs.Text.Find
import WebScript.Url.Encoded

namespace WebScript.Url.Encoded

variable {c : Char} {b : UInt8} {rest part : List Char} {text : String}

/-- The bytes that a part of a body stands for. A plus is a blank, two hexadecimal digits after a
percent sign are a byte, and any other character is its UTF-8 form. -/
def bytesOf : List Char → List UInt8
  | [] => []
  | '%' :: a :: b :: rest =>
    match Number.hexValue? a, Number.hexValue? b with
    | some high, some low => .ofNat (16 * high + low) :: bytesOf rest
    | _, _ => 0x25 :: bytesOf (a :: b :: rest)
  | c :: rest => (if c = '+' then [0x20] else String.utf8EncodeChar c) ++ bytesOf rest

def textOf? (part : List Char) : Option String :=
  String.fromUTF8? (bytesOf part).toByteArray

/-- The pair of a part: its name up to the first equals sign, and its value, empty without one. -/
def pairOf? (part : List Char) : Option (String × String) := do
  let (name, value) := (Text.cutAt? ['='] part).getD (part, [])
  return (← textOf? name, ← textOf? value)

/-- The pairs that a body submits, part by part. Empty parts are passed over. -/
def decode? (body : String) : Option (List (String × String)) :=
  ((Text.pieces '&' body.toList).filter (· ≠ [])).mapM pairOf?

theorem bytesOf_cons (other : c ≠ '%') (rest : List Char) :
    bytesOf (c :: rest) = (if c = '+' then [0x20] else String.utf8EncodeChar c) ++
      bytesOf rest := by
  rw [bytesOf]
  rintro a b rest' rfl
  exact absurd rfl other

theorem hexValue?_hexDigit : ∀ n < 16, Number.hexValue? (hexDigit n) = some n := by
  decide

theorem bytesOf_percent (b : UInt8) (rest : List Char) :
    bytesOf (percent b ++ rest) = b :: bytesOf rest := by
  have high : b.toNat / 16 < 16 := Nat.div_lt_of_lt_mul b.toNat_lt
  have low : b.toNat % 16 < 16 := Nat.mod_lt _ (by decide)
  rw [percent, List.cons_append, List.cons_append, List.cons_append, List.nil_append, bytesOf]
  simp only [hexValue?_hexDigit _ high, hexValue?_hexDigit _ low]
  rw [Nat.div_add_mod, UInt8.ofNat_toNat]

theorem bytesOf_flatMap_percent (bytes : List UInt8) (rest : List Char) :
    bytesOf (bytes.flatMap percent ++ rest) = bytes ++ bytesOf rest := by
  induction bytes with
  | nil => rfl
  | cons b bytes ih =>
    rw [List.flatMap_cons, List.append_assoc, bytesOf_percent, ih, List.cons_append]

theorem toList_loop (bytes : ByteArray) (i : ℕ) (done : List UInt8) :
    ByteArray.toList.loop bytes i done = done.reverse ++ bytes.data.toList.drop i := by
  fun_induction ByteArray.toList.loop bytes i done with
  | case1 i done inside ih =>
    have inside' : i < bytes.data.toList.length := inside
    rw [ih, List.drop_eq_getElem_cons inside']
    simp [ByteArray.get!, inside]
  | case2 i done outside =>
    have outside' : bytes.data.toList.length ≤ i := Nat.le_of_not_lt outside
    rw [List.drop_eq_nil_of_le outside', List.append_nil]

/-- The UTF-8 form of a character, byte by byte. -/
theorem toList_toUTF8_singleton (c : Char) :
    (String.singleton c).toUTF8.toList = String.utf8EncodeChar c := by
  rw [String.toUTF8_eq_toByteArray, String.toByteArray_singleton, List.utf8Encode_singleton,
    ByteArray.toList, toList_loop, List.toList_data_toByteArray]
  rfl

theorem isPlain_ne {c d : Char} (plain : isPlain c = true) (special : isPlain d = false) :
    c ≠ d := by
  rintro rfl
  exact Bool.noConfusion (plain.symm.trans special)

theorem bytesOf_encodeChar (c : Char) (rest : List Char) :
    bytesOf (encodeChar c ++ rest) = String.utf8EncodeChar c ++ bytesOf rest := by
  rw [encodeChar]
  split
  · next plain =>
    have other : c ≠ '%' := isPlain_ne plain (by decide)
    have noPlus : c ≠ '+' := isPlain_ne plain (by decide)
    rw [List.singleton_append, bytesOf_cons other, if_neg noPlus]
  · split
    · next blank =>
      rw [beq_iff_eq.1 blank, List.singleton_append, bytesOf_cons (by decide), if_pos rfl]
      rfl
    · rw [bytesOf_flatMap_percent, toList_toUTF8_singleton]

theorem bytesOf_encodeText (text : String) :
    bytesOf (encodeText text) = text.toList.flatMap String.utf8EncodeChar := by
  rw [encodeText]
  induction text.toList with
  | nil => rfl
  | cons c text ih => rw [List.flatMap_cons, bytesOf_encodeChar, ih, List.flatMap_cons]

theorem textOf?_encodeText (text : String) : textOf? (encodeText text) = some text := by
  have bytes : (bytesOf (encodeText text)).toByteArray = text.toByteArray := by
    rw [bytesOf_encodeText, ← String.utf8Encode_toList, List.utf8Encode]
  rw [textOf?, bytes, String.fromUTF8?, dif_pos text.isValidUTF8]
  rfl

theorem isPlain_hexDigit : ∀ n < 16, isPlain (hexDigit n) = true := by
  decide

/-- A text is written with plain characters, plus and percent signs only. -/
theorem mem_encodeText (h : c ∈ encodeText text) : isPlain c = true ∨ c = '+' ∨ c = '%' := by
  obtain ⟨d, -, h⟩ := List.mem_flatMap.1 h
  rw [encodeChar] at h
  split at h
  · next plain => exact .inl (List.mem_singleton.1 h ▸ plain)
  · split at h
    · exact .inr (.inl (List.mem_singleton.1 h))
    · obtain ⟨b, -, h⟩ := List.mem_flatMap.1 h
      have high : b.toNat / 16 < 16 := Nat.div_lt_of_lt_mul b.toNat_lt
      have low : b.toNat % 16 < 16 := Nat.mod_lt _ (by decide)
      rw [percent, List.mem_cons, List.mem_pair] at h
      rcases h with rfl | rfl | rfl
      · exact .inr (.inr rfl)
      · exact .inl (isPlain_hexDigit _ high)
      · exact .inl (isPlain_hexDigit _ low)

theorem not_mem_encodeText (special : isPlain c = false) (noPlus : c ≠ '+') (noPercent : c ≠ '%') :
    c ∉ encodeText text := by
  intro h
  rcases mem_encodeText h with plain | plus | percent
  · exact Bool.noConfusion (plain.symm.trans special)
  · exact noPlus plus
  · exact noPercent percent

theorem pairOf?_encodePair (pair : String × String) : pairOf? (encodePair pair) = some pair := by
  have cut : Text.cutAt? ['='] (encodePair pair) = some (encodeText pair.1, encodeText pair.2) :=
    Text.cutAt?_append (not_mem_encodeText (by decide) (by decide) (by decide))
  rw [pairOf?, cut, Option.getD_some]
  dsimp only
  rw [textOf?_encodeText, textOf?_encodeText]
  rfl

theorem encodePair_ne_nil (pair : String × String) : encodePair pair ≠ [] :=
  List.append_ne_nil_of_right_ne_nil _ (List.cons_ne_nil _ _)

theorem ampersand_not_mem_encodePair (pair : String × String) : '&' ∉ encodePair pair := by
  have absent (text : String) : '&' ∉ encodeText text :=
    not_mem_encodeText (by decide) (by decide) (by decide)
  intro h
  rcases List.mem_append.1 h with name | h
  · exact absent pair.1 name
  · rcases List.mem_cons.1 h with equals | value
    · cases equals
    · exact absent pair.2 value

theorem filter_pieces_encode (pairs : List (String × String)) :
    (Text.pieces '&' (encode pairs).toList).filter (· ≠ []) = pairs.map encodePair := by
  rw [encode, String.toList_ofList]
  cases pairs with
  | nil => rfl
  | cons pair pairs =>
    have nonempty : (pair :: pairs).map encodePair ≠ [] := List.cons_ne_nil _ _
    rw [Text.pieces_intercalate nonempty, List.filter_eq_self]
    · intro part hp
      obtain ⟨pair, -, rfl⟩ := List.mem_map.1 hp
      exact decide_eq_true (encodePair_ne_nil pair)
    · intro part hp
      obtain ⟨pair, -, rfl⟩ := List.mem_map.1 hp
      exact ampersand_not_mem_encodePair pair

/-- What has been written from pairs is read back as the same pairs, in the same order. -/
theorem decode?_encode (pairs : List (String × String)) : decode? (encode pairs) = some pairs := by
  rw [decode?, filter_pieces_encode]
  induction pairs with
  | nil => rfl
  | cons pair pairs ih =>
    rw [List.map_cons, List.mapM_cons, pairOf?_encodePair, ih]
    rfl

end WebScript.Url.Encoded
