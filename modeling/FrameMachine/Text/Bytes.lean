namespace FrameMachine
namespace Text

/-!
# Bytes of a text

A text is held, compared and sent to streams as its bytes in UTF-8.
-/

/-- The bytes of a text. -/
def bytes (text : String) : List UInt8 :=
  text.toByteArray.data.toList

/-- The bytes of a text are those of its characters, one behind the other. -/
theorem bytes_eq_flatMap (text : String) :
    bytes text = text.toList.flatMap String.utf8EncodeChar := by
  rcases text.exists_eq_ofList with ⟨characters, rfl⟩
  rw [bytes, String.toByteArray_ofList, String.toList_ofList, List.utf8Encode,
    List.data_toByteArray]

theorem bytes_append (first second : String) :
    bytes (first ++ second) = bytes first ++ bytes second := by
  simp [bytes, String.toByteArray_append]

end Text
end FrameMachine
