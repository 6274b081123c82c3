set_option autoImplicit false

namespace BusLink.Text

def bytes (text : String) : List UInt8 :=
  text.toList.flatMap String.utf8EncodeChar

/-- The text that bytes spell, `none` if they are not valid UTF-8. -/
def ofBytes? (content : List UInt8) : Option String :=
  String.fromUTF8? (ByteArray.mk content.toArray)

theorem bytes_eq_toUTF8 (text : String) : bytes text = text.toUTF8.data.toList := by
  have spelled : String.ofList text.toList = text := String.ofList_toList
  rw [← spelled, String.toUTF8_eq_toByteArray, String.toByteArray_ofList]
  simp [bytes, List.utf8Encode]

theorem ofBytes?_bytes (text : String) : ofBytes? (bytes text) = some text := by
  rw [ofBytes?, bytes_eq_toUTF8, Array.toArray_toList, String.toUTF8_eq_toByteArray]
  exact dif_pos text.isValidUTF8

theorem bytes_injective {left right : String} (same : bytes left = bytes right) : left = right := by
  have spelled := ofBytes?_bytes left
  rw [same, ofBytes?_bytes] at spelled
  exact (Option.some.inj spelled).symm

end BusLink.Text
