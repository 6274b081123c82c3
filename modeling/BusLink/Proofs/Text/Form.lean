import BusLink.Text.Blank
import BusLink.Text.Percent

set_option autoImplicit false

namespace BusLink.Text.Percent

/-- Unreserved characters, plus signs and percent triples in a row. -/
inductive FormText : List Char → Prop where
  | nil : FormText []
  | unreserved {character : Char} {rest : List Char}
      (unreserved : isUnreserved character = true) (form : FormText rest) :
      FormText (character :: rest)
  | plus {rest : List Char} (form : FormText rest) : FormText ('+' :: rest)
  | triple {high low : Char} {rest : List Char} (left : (hexValue? high).isSome = true)
      (right : (hexValue? low).isSome = true) (form : FormText rest) :
      FormText ('%' :: high :: low :: rest)

def isPlain (character : Char) : Bool :=
  isUnreserved character || character = '+' || character = '%'

def plusForTriples : List Char → List Char
  | '%' :: '2' :: '0' :: rest => '+' :: plusForTriples rest
  | character :: rest => character :: plusForTriples rest
  | [] => []

theorem isSome_hexValue?_capitalHexDigit {value : Nat} (small : value < 16) :
    (hexValue? (capitalHexDigit value)).isSome = true := by
  rw [hexValue?_capitalHexDigit value small]
  rfl

theorem FormText.encodeByte {rest : List Char} (form : FormText rest) (byte : UInt8) :
    FormText (encodeByte byte ++ rest) := by
  have bound := byte.toNat_lt
  unfold Percent.encodeByte
  split
  · rename_i unreserved
    exact .unreserved unreserved form
  · exact .triple (isSome_hexValue?_capitalHexDigit (by omega))
      (isSome_hexValue?_capitalHexDigit (by omega)) form

theorem FormText.encodeFormByte {rest : List Char} (form : FormText rest) (byte : UInt8) :
    FormText (encodeFormByte byte ++ rest) := by
  unfold Percent.encodeFormByte
  split
  · exact .plus form
  · exact form.encodeByte byte

theorem formText_flatMap {write : UInt8 → List Char}
    (form : ∀ {rest}, FormText rest → ∀ byte, FormText (write byte ++ rest))
    (content : List UInt8) : FormText (content.flatMap write) := by
  induction content with
  | nil => exact .nil
  | cons byte rest ih =>
    rw [List.flatMap_cons]
    exact form ih byte

theorem formText_encode (text : String) : FormText (encode text) :=
  formText_flatMap FormText.encodeByte (bytes text)

theorem formText_encodeForm (text : String) : FormText (encodeForm text) :=
  formText_flatMap FormText.encodeFormByte (bytes text)

theorem le_iff_toNat_le (left right : Char) : left ≤ right ↔ left.toNat ≤ right.toNat := by
  rw [Char.le_def, UInt32.le_iff_toNat_le]
  rfl

theorem isUnreserved_iff (character : Char) :
    isUnreserved character = true ↔
      (48 ≤ character.toNat ∧ character.toNat ≤ 57) ∨
      (65 ≤ character.toNat ∧ character.toNat ≤ 90) ∨
      (97 ≤ character.toNat ∧ character.toNat ≤ 122) ∨
      character.toNat = 45 ∨ character.toNat = 95 ∨ character.toNat = 46 ∨
      character.toNat = 126 := by
  unfold isUnreserved Char.isAlphanum Char.isAlpha Char.isUpper Char.isLower Char.isDigit
  simp only [ge_iff_le, UInt32.le_iff_toNat_le, Bool.or_eq_true, Bool.and_eq_true,
    decide_eq_true_eq, ← Char.toNat_inj, Char.toNat_val, Char.reduceToNat]
  omega

theorem isUnreserved_of_hexValue? {digit : Char} (some : (hexValue? digit).isSome = true) :
    isUnreserved digit = true := by
  rw [isUnreserved_iff]
  simp only [hexValue?, le_iff_toNat_le, Char.reduceToNat] at some
  split at some
  · omega
  · split at some
    · omega
    · split at some
      · omega
      · cases some

theorem isPlain_of_isUnreserved {character : Char} (unreserved : isUnreserved character = true) :
    isPlain character = true := by
  simp only [isPlain, unreserved, Bool.true_or]

theorem isPlain_of_isDigit {character : Char} (digit : character.isDigit = true) :
    isPlain character = true := by
  simp only [isPlain, isUnreserved, Char.isAlphanum, digit, Bool.or_true, Bool.true_or]

theorem isBlank_of_isPlain {character : Char} (plain : isPlain character = true) :
    isBlank character = false := by
  simp only [isPlain, Bool.or_eq_true, decide_eq_true_eq, isUnreserved_iff] at plain
  rcases plain with (unreserved | rfl) | rfl
  · simp [isBlank, blankRanges]
    omega
  · rfl
  · rfl

theorem FormText.isPlain {characters : List Char} (form : FormText characters) :
    ∀ character ∈ characters, isPlain character = true := by
  induction form with
  | nil => simp
  | unreserved unreserved _ ih =>
    exact List.forall_mem_cons.mpr ⟨isPlain_of_isUnreserved unreserved, ih⟩
  | plus _ ih => exact List.forall_mem_cons.mpr ⟨rfl, ih⟩
  | triple left right _ ih =>
    refine List.forall_mem_cons.mpr ⟨rfl, List.forall_mem_cons.mpr ⟨?_, ?_⟩⟩
    · exact isPlain_of_isUnreserved (isUnreserved_of_hexValue? left)
    · exact List.forall_mem_cons.mpr ⟨isPlain_of_isUnreserved (isUnreserved_of_hexValue? right), ih⟩

theorem plusForTriples_cons {character : Char} (other : character ≠ '%') (rest : List Char) :
    plusForTriples (character :: rest) = character :: plusForTriples rest := by
  rw [plusForTriples.eq_def]
  split <;> simp_all

theorem plusForTriples_triple {high low : Char} (other : ¬ (high = '2' ∧ low = '0'))
    (rest : List Char) :
    plusForTriples ('%' :: high :: low :: rest) = '%' :: plusForTriples (high :: low :: rest) := by
  rw [plusForTriples.eq_def]
  split
  · simp_all
  · rename_i shape
    obtain ⟨rfl, rfl⟩ := List.cons.inj shape
    rfl
  · rename_i shape
    cases shape

theorem capitalHexDigit_ne_percent {value : Nat} (small : value < 16) :
    capitalHexDigit value ≠ '%' := by
  intro same
  have unreserved := isUnreserved_of_hexValue? (isSome_hexValue?_capitalHexDigit small)
  rw [same] at unreserved
  cases unreserved

theorem plusForTriples_encodeByte (byte : UInt8) (rest : List Char) :
    plusForTriples (encodeByte byte ++ rest) = encodeFormByte byte ++ plusForTriples rest := by
  have bound := byte.toNat_lt
  by_cases space : byte = 0x20
  · rw [space]
    rfl
  · rw [encodeFormByte, if_neg space]
    unfold encodeByte
    split
    · rename_i unreserved
      have other : Char.ofNat byte.toNat ≠ '%' := (unreserved_byte _ bound unreserved).1
      exact plusForTriples_cons other rest
    · have noSpace : ¬ (capitalHexDigit (byte.toNat / 16) = '2' ∧
          capitalHexDigit (byte.toNat % 16) = '0') := by
        rintro ⟨left, right⟩
        have high := hexValue?_capitalHexDigit (byte.toNat / 16) (by omega)
        have low := hexValue?_capitalHexDigit (byte.toNat % 16) (by omega)
        rw [left, show hexValue? '2' = some 2 from rfl, Option.some.injEq] at high
        rw [right, show hexValue? '0' = some 0 from rfl, Option.some.injEq] at low
        exact space (UInt8.toNat_inj.mp (show byte.toNat = 32 by omega))
      rw [List.cons_append, List.cons_append, List.cons_append, List.nil_append,
        plusForTriples_triple noSpace, plusForTriples_cons (capitalHexDigit_ne_percent (by omega)),
        plusForTriples_cons (capitalHexDigit_ne_percent (by omega))]
      rfl

/-- Form encoding is percent encoding with a plus sign for every triple of a space, wherever it
stands in the text. -/
theorem plusForTriples_encode (text : String) : plusForTriples (encode text) = encodeForm text := by
  unfold encode encodeForm
  induction bytes text with
  | nil => rfl
  | cons byte rest ih => rw [List.flatMap_cons, plusForTriples_encodeByte, ih, List.flatMap_cons]

example : plusForTriples (encode "a b%20+") = "a+b%2520%2B".toList := by decide

end BusLink.Text.Percent
