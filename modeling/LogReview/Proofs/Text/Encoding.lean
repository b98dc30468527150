import LogReview.Tree.Reading

/-! Texts in UTF-8 are read as they were written, as a whole and part by part. Offsets count bytes; where a part begins
and ends between characters, its bytes are read as its characters, whatever stands before and behind it. -/
namespace LogReview

namespace Text

/-- One character is read off at the place where it was written. -/
theorem utf8DecodeChar?_utf8Encode (before after : List Char) (c : Char) :
    (before.utf8Encode ++ (c :: after).utf8Encode).utf8DecodeChar? before.utf8Encode.size = some c := by
  rw [ByteArray.utf8DecodeChar?_eq_utf8DecodeChar?_extract, ByteArray.size_append,
    ByteArray.extract_append_eq_right rfl rfl, List.utf8Encode_cons, List.utf8Encode_singleton]
  exact ByteArray.utf8DecodeChar?_utf8EncodeChar_append

theorem size_utf8Encode_concat (cs : List Char) (c : Char) :
    (cs ++ [c]).utf8Encode.size = cs.utf8Encode.size + c.utf8Size := by
  simp [List.utf8Encode_append, List.utf8Encode_singleton]

theorem decodeFrom_utf8Encode (before after : List Char) :
    decodeFrom (before.utf8Encode ++ after.utf8Encode) before.utf8Encode.size = after := by
  induction after generalizing before with
  | nil => rw [decodeFrom, dif_neg (by simp)]
  | cons c after ih =>
    have here := utf8DecodeChar?_utf8Encode before after c
    have inside := ByteArray.lt_size_of_isSome_utf8DecodeChar? (by rw [here]; rfl)
    have next := ih (before ++ [c])
    rw [size_utf8Encode_concat, List.utf8Encode_append, ByteArray.append_assoc, ← List.utf8Encode_cons] at next
    rw [decodeFrom, dif_pos inside, here]
    exact congrArg (c :: ·) next

theorem decode_toUTF8 (s : String) : decode s.toUTF8 = s.toList := by
  have whole := decodeFrom_utf8Encode [] s.toList
  rwa [List.utf8Encode_nil, ByteArray.empty_append, String.utf8Encode_toList] at whole

end Text

/-- The text of a part is that part. -/
theorem Source.text_toUTF8 (before part after : String) :
    Source.text (before ++ part ++ after).toUTF8 before.utf8ByteSize (before ++ part).utf8ByteSize = part := by
  have bytes : (before ++ part ++ after).toUTF8.extract before.utf8ByteSize (before ++ part).utf8ByteSize =
      part.toUTF8 := by
    simp only [String.toUTF8_eq_toByteArray, ← String.size_toByteArray]
    rw [@String.toByteArray_append (before ++ part), ByteArray.extract_append_size_left, String.toByteArray_append,
      ByteArray.extract_append_eq_right rfl ByteArray.size_append]
  rw [Source.text, bytes, Text.decode_toUTF8, String.ofList_toList]

end LogReview
