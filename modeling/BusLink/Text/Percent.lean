import BusLink.Text.Bytes
import BusLink.Text.Hex

set_option autoImplicit false

namespace BusLink.Text.Percent

/-- Letters, digits, and the four marks hyphen, underscore, point and tilde. -/
def isUnreserved (character : Char) : Bool :=
  character.isAlphanum || character = '-' || character = '_' || character = '.' || character = '~'

def encodeByte (byte : UInt8) : List Char :=
  if isUnreserved (Char.ofNat byte.toNat) then [Char.ofNat byte.toNat]
  else ['%', capitalHexDigit (byte.toNat / 16), capitalHexDigit (byte.toNat % 16)]

/-- One byte of a form: a space is a plus sign, all else as in `encodeByte`. -/
def encodeFormByte (byte : UInt8) : List Char :=
  if byte = 0x20 then ['+'] else encodeByte byte

def encode (text : String) : List Char :=
  (bytes text).flatMap encodeByte

def encodeForm (text : String) : List Char :=
  (bytes text).flatMap encodeFormByte

/-- The bytes that a percent encoded text stands for; refuses a reserved character. -/
def decodeBytes : List Char → Option (List UInt8)
  | [] => some []
  | '%' :: high :: low :: rest => do
    let high ← hexValue? high
    let low ← hexValue? low
    let others ← decodeBytes rest
    return UInt8.ofNat (16 * high + low) :: others
  | character :: rest =>
    if isUnreserved character then
      (decodeBytes rest).map (UInt8.ofNat character.toNat :: ·)
    else none

/-- The text that a percent encoded text stands for. -/
def decode (characters : List Char) : Option String :=
  decodeBytes characters >>= ofBytes?

def plusAsTriple (character : Char) : List Char :=
  if character = '+' then ['%', '2', '0'] else [character]

/-- The text that a form encoded text stands for: a plus sign is read as an encoded space. -/
def decodeForm (characters : List Char) : Option String :=
  decode (characters.flatMap plusAsTriple)

theorem unreserved_byte : ∀ value < 256, isUnreserved (Char.ofNat value) = true →
    Char.ofNat value ≠ '%' ∧ (Char.ofNat value).toNat = value := by
  decide +kernel

theorem decodeBytes_cons (character : Char) (rest : List Char) (plain : character ≠ '%')
    (unreserved : isUnreserved character = true) :
    decodeBytes (character :: rest) =
      (decodeBytes rest).map (UInt8.ofNat character.toNat :: ·) := by
  rw [decodeBytes.eq_def]
  split
  · simp_all
  · simp_all
  · simp_all

theorem decodeBytes_triple (byte : UInt8) (rest : List Char) :
    decodeBytes ('%' :: capitalHexDigit (byte.toNat / 16) :: capitalHexDigit (byte.toNat % 16) ::
      rest) = (decodeBytes rest).map (byte :: ·) := by
  have bound := byte.toNat_lt
  have whole : 16 * (byte.toNat / 16) + byte.toNat % 16 = byte.toNat := by omega
  rw [decodeBytes, hexValue?_capitalHexDigit _ (by omega), hexValue?_capitalHexDigit _ (by omega)]
  simp only [Option.bind_eq_bind, Option.bind_some, whole, UInt8.ofNat_toNat]
  cases decodeBytes rest <;> rfl

theorem decodeBytes_encodeByte (byte : UInt8) (rest : List Char) :
    decodeBytes (encodeByte byte ++ rest) = (decodeBytes rest).map (byte :: ·) := by
  unfold encodeByte
  split
  · rename_i unreserved
    obtain ⟨plain, same⟩ := unreserved_byte byte.toNat byte.toNat_lt unreserved
    rw [List.cons_append, List.nil_append, decodeBytes_cons _ _ plain unreserved, same,
      UInt8.ofNat_toNat]
  · exact decodeBytes_triple byte rest

theorem decodeBytes_flatMap (content : List UInt8) :
    decodeBytes (content.flatMap encodeByte) = some content := by
  induction content with
  | nil => rfl
  | cons byte rest ih => rw [List.flatMap_cons, decodeBytes_encodeByte, ih, Option.map_some]

theorem decode_encode (text : String) : decode (encode text) = some text := by
  rw [decode, encode, decodeBytes_flatMap]
  exact ofBytes?_bytes text

theorem capitalHexDigit_ne_plus : ∀ value < 16, capitalHexDigit value ≠ '+' := by
  decide

theorem plus_notMem_encodeByte (byte : UInt8) : '+' ∉ encodeByte byte := by
  have bound := byte.toNat_lt
  unfold encodeByte
  split
  · rename_i unreserved
    intro found
    rw [← List.mem_singleton.1 found] at unreserved
    exact absurd unreserved (by decide)
  · simp [Ne.symm (capitalHexDigit_ne_plus (byte.toNat / 16) (by omega)),
      Ne.symm (capitalHexDigit_ne_plus (byte.toNat % 16) (by omega))]

theorem flatMap_plusAsTriple (characters : List Char) (absent : '+' ∉ characters) :
    characters.flatMap plusAsTriple = characters := by
  induction characters with
  | nil => rfl
  | cons character rest ih =>
    have other : character ≠ '+' := fun same => absent (by simp [same])
    simp [plusAsTriple, other, ih (fun found => absent (by simp [found]))]

theorem flatMap_plusAsTriple_encodeFormByte (byte : UInt8) :
    (encodeFormByte byte).flatMap plusAsTriple = encodeByte byte := by
  unfold encodeFormByte
  split
  · rename_i space
    rw [space]
    decide
  · exact flatMap_plusAsTriple _ (plus_notMem_encodeByte byte)

theorem decodeForm_encodeForm (text : String) : decodeForm (encodeForm text) = some text := by
  rw [decodeForm, encodeForm, List.flatMap_assoc]
  simp only [flatMap_plusAsTriple_encodeFormByte]
  exact decode_encode text

end BusLink.Text.Percent
