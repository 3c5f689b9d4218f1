import SessionReplay.Text.Lossy

/-!
# Texts are read as what they are

* `Text.lossy_utf8_append`: what is read of a text with more bytes behind it.
* `Text.fromUTF8?_toUTF8`, `Text.utf8_injective`: a text is told by its bytes.
-/

namespace SessionReplay.Text

theorem utf8_eq (s : String) : utf8 s = s.toList.flatMap String.utf8EncodeChar := by
  rw [utf8, String.toUTF8_eq_toByteArray, ← String.utf8Encode_toList, List.utf8Encode,
    List.toList_data_toByteArray]

theorem fromUTF8?_toUTF8 (s : String) : String.fromUTF8? s.toUTF8 = some s := by
  rw [String.fromUTF8?, String.toUTF8_eq_toByteArray, dif_pos s.isValidUTF8]
  rfl

theorem utf8_append (s t : String) : utf8 (s ++ t) = utf8 s ++ utf8 t := by
  rw [utf8_eq, utf8_eq, utf8_eq, String.toList_append, List.flatMap_append]

theorem toByteArray_utf8 (s : String) : (utf8 s).toByteArray = s.toUTF8 := by
  rw [utf8_eq, ← List.utf8Encode, String.utf8Encode_toList, String.toUTF8_eq_toByteArray]

theorem utf8_injective : Function.Injective utf8 := by
  intro s t hSame
  have hText := fromUTF8?_toUTF8 s
  rw [← toByteArray_utf8, hSame, toByteArray_utf8, fromUTF8?_toUTF8] at hText
  exact (Option.some.inj hText).symm

/-! ## Characters -/

theorem firstChar_eq {c : Char} {first : UInt8} {tail : List UInt8} (rest : List UInt8)
    (hBytes : String.utf8EncodeChar c = first :: tail) :
    firstChar first (tail ++ rest) = (c, tail.length) := by
  have hSize : tail.length + 1 = c.utf8Size := by
    rw [← String.length_utf8EncodeChar, hBytes, List.length_cons]
  have hTail : tail.length ≤ 3 := by
    have := c.utf8Size_le_four
    omega
  have hChar : (first :: (tail ++ rest).take 3).toByteArray.utf8DecodeChar? 0 = some c := by
    rw [List.take_append, List.take_of_length_le hTail, ← List.cons_append, ← hBytes,
      List.toByteArray_append]
    exact ByteArray.utf8DecodeChar?_utf8EncodeChar_append
  rw [firstChar, hChar]
  simp only [← hSize, Nat.add_sub_cancel]

theorem lossyChars_append {front : List UInt8} (rest : List UInt8) :
    lossyChars front.length (front ++ rest) = lossyChars 0 rest := by
  induction front with
  | nil => rfl
  | cons b front ih => exact ih

theorem lossyChars_char (c : Char) (rest : List UInt8) :
    lossyChars 0 (String.utf8EncodeChar c ++ rest) = c :: lossyChars 0 rest := by
  cases hBytes : String.utf8EncodeChar c with
  | nil => exact absurd hBytes String.utf8EncodeChar_ne_nil
  | cons first tail =>
    rw [List.cons_append, lossyChars, firstChar_eq rest hBytes]
    exact congrArg (c :: ·) (lossyChars_append rest)

/-! ## Texts -/

theorem lossy_utf8_append (s : String) (rest : List UInt8) :
    lossy (utf8 s ++ rest) = s ++ lossy rest := by
  have hChars (cs : List Char) : lossyChars 0 (cs.flatMap String.utf8EncodeChar ++ rest) =
      cs ++ lossyChars 0 rest := by
    induction cs with
    | nil => rfl
    | cons c cs ih => rw [List.flatMap_cons, List.append_assoc, lossyChars_char, ih, List.cons_append]
  rw [lossy, utf8_eq, hChars, String.ofList_append, String.ofList_toList, lossy]

@[simp] theorem lossy_utf8 (s : String) : lossy (utf8 s) = s := by
  have hText := lossy_utf8_append s []
  rwa [List.append_nil, show lossy [] = "" from rfl, String.append_empty] at hText

/-- A character that breaks off is replaced as a whole, bytes with which none begins one by one. -/
example : lossy [0xE2, 0x82, 0x41, 0xED, 0xA0, 0x80] = "\uFFFDA\uFFFD\uFFFD\uFFFD" := by
  decide +kernel

end SessionReplay.Text
