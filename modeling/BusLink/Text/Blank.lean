set_option autoImplicit false

namespace BusLink.Text

/-- Inclusive ranges of the code points that have the White_Space property, in increasing order. -/
def blankRanges : List (Nat × Nat) :=
  [(0x09, 0x0D), (0x20, 0x20), (0x85, 0x85), (0xA0, 0xA0), (0x1680, 0x1680), (0x2000, 0x200A),
    (0x2028, 0x2029), (0x202F, 0x202F), (0x205F, 0x205F), (0x3000, 0x3000)]

def isBlank (character : Char) : Bool :=
  blankRanges.any fun range => range.1 ≤ character.toNat && character.toNat ≤ range.2

def dropEndWhile (test : Char → Bool) (characters : List Char) : List Char :=
  (characters.reverse.dropWhile test).reverse

/-- Removes blank characters from both ends. -/
def trimBlank (characters : List Char) : List Char :=
  dropEndWhile isBlank (characters.dropWhile isBlank)

def trim (text : String) : String :=
  String.ofList (trimBlank text.toList)

/-- A text with its ASCII capitals replaced by small letters. -/
def lower (text : String) : String :=
  String.ofList (text.toList.map Char.toLower)

@[simp] theorem toList_trim (text : String) : (trim text).toList = trimBlank text.toList := by
  simp [trim]

end BusLink.Text
