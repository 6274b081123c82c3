import BusLink.Auth.Signature
import BusLink.Proofs.Number.Decimal
import BusLink.Proofs.Text.Form
import BusLink.Proofs.Text.Pieces

set_option autoImplicit false

namespace BusLink.Auth.Signature

open Text (isBlank pieces)
open Text.Percent (FormText isPlain)

/-- What stands between the labels of a token. -/
structure Parts where
  audience : List Char
  code : List Char
  expiry : List Char
  policy : List Char

def Parts.text (parts : Parts) : List Char :=
  "SharedAccessSignature sr=".toList ++ parts.audience ++ "&sig=".toList ++ parts.code ++
    "&se=".toList ++ parts.expiry ++ "&skn=".toList ++ parts.policy

def signedParts (audience policy key : String) (expiresOn : Int) : Parts where
  audience := Text.Percent.encodeForm audience
  code := Text.Percent.encode (code audience key expiresOn)
  expiry := Numeral.integer expiresOn
  policy := Text.Percent.encodeForm policy

/-- Nothing but encoded text and decimal notation stands in the parts. -/
structure Parts.Plain (parts : Parts) : Prop where
  audience : ∀ character ∈ parts.audience, isPlain character = true
  code : ∀ character ∈ parts.code, isPlain character = true
  expiry : ∀ character ∈ parts.expiry, isPlain character = true
  policy : ∀ character ∈ parts.policy, isPlain character = true

/-- The parts tell what a token was made from. -/
structure Parts.Tell (parts : Parts) (audience policy key : String) (expiresOn : Int64) :
    Prop where
  audienceForm : FormText parts.audience
  policyForm : FormText parts.policy
  -- The encoding of the audience, with a plus sign for every triple of a space.
  audienceWritten : parts.audience = Text.Percent.plusForTriples (Text.Percent.encode audience)
  policyWritten : parts.policy = Text.Percent.plusForTriples (Text.Percent.encode policy)
  audienceRead : Text.Percent.decodeForm parts.audience = some audience
  policyRead : Text.Percent.decodeForm parts.policy = some policy
  expiry : parts.expiry = (toString expiresOn.toInt).toList
  -- The code is made over the two parts as they stand in the token.
  code : Text.Percent.decode parts.code = some (String.ofList (Text.Base64.encode
    (Hash.hmac (Text.bytes key)
      (Text.bytes (String.ofList (parts.audience ++ '\n' :: parts.expiry))))))

theorem toList_sign (audience policy key : String) (expiresOn : Int) :
    (sign audience policy key expiresOn).toList =
      (signedParts audience policy key expiresOn).text := by
  unfold sign Parts.text signedParts
  dsimp only
  exact String.toList_ofList

theorem isPlain_of_mem_integer {value : Int} {character : Char}
    (member : character ∈ Numeral.integer value) : isPlain character = true := by
  rcases Numeral.mem_integer member with digit | rfl
  · exact Text.Percent.isPlain_of_isDigit digit
  · rfl

theorem plain_signedParts (audience policy key : String) (expiresOn : Int) :
    (signedParts audience policy key expiresOn).Plain where
  audience := (Text.Percent.formText_encodeForm audience).isPlain
  code := (Text.Percent.formText_encode _).isPlain
  expiry _ member := isPlain_of_mem_integer member
  policy := (Text.Percent.formText_encodeForm policy).isPlain

theorem tell_signedParts (audience policy key : String) (expiresOn : Int64) :
    (signedParts audience policy key expiresOn.toInt).Tell audience policy key expiresOn where
  audienceForm := Text.Percent.formText_encodeForm audience
  policyForm := Text.Percent.formText_encodeForm policy
  audienceWritten := (Text.Percent.plusForTriples_encode audience).symm
  policyWritten := (Text.Percent.plusForTriples_encode policy).symm
  audienceRead := Text.Percent.decodeForm_encodeForm audience
  policyRead := Text.Percent.decodeForm_encodeForm policy
  expiry := Numeral.integer_eq_toString expiresOn.toInt
  code := Text.Percent.decode_encode _

theorem notMem_of_plain {characters : List Char} {mark : Char}
    (plain : ∀ character ∈ characters, isPlain character = true) (foreign : isPlain mark = false) :
    mark ∉ characters := by
  intro found
  rw [plain mark found] at foreign
  cases foreign

theorem Parts.count_text (parts : Parts) :
    parts.text.count '&' = parts.audience.count '&' + parts.code.count '&' +
      parts.expiry.count '&' + parts.policy.count '&' + 3 := by
  have first : "SharedAccessSignature sr=".toList.count '&' = 0 := by decide
  have second : "&sig=".toList.count '&' = 1 := by decide
  have third : "&se=".toList.count '&' = 1 := by decide
  have fourth : "&skn=".toList.count '&' = 1 := by decide
  unfold Parts.text
  simp only [List.count_append, first, second, third, fourth]
  omega

def Parts.Unmarked (parts : Parts) : Prop :=
  '&' ∉ parts.audience ∧ '&' ∉ parts.code ∧ '&' ∉ parts.expiry ∧ '&' ∉ parts.policy

theorem Parts.unmarked_iff (parts : Parts) : parts.Unmarked ↔ parts.text.count '&' = 3 := by
  rw [parts.count_text, Parts.Unmarked]
  simp only [← List.count_eq_zero]
  omega

theorem Parts.Plain.unmarked {parts : Parts} (plain : parts.Plain) : parts.Unmarked :=
  ⟨notMem_of_plain plain.audience rfl, notMem_of_plain plain.code rfl,
    notMem_of_plain plain.expiry rfl, notMem_of_plain plain.policy rfl⟩

theorem Parts.text_eq (parts : Parts) :
    parts.text = "SharedAccessSignature sr=".toList ++ (parts.audience ++ '&' ::
      ("sig=".toList ++ (parts.code ++ '&' :: ("se=".toList ++ (parts.expiry ++ '&' ::
        ("skn=".toList ++ parts.policy)))))) := by
  have second : "&sig=".toList = '&' :: "sig=".toList := by decide
  have third : "&se=".toList = '&' :: "se=".toList := by decide
  have fourth : "&skn=".toList = '&' :: "skn=".toList := by decide
  unfold Parts.text
  simp only [second, third, fourth, List.append_assoc, List.cons_append]

/-- Only one way of cutting a token into parts fits its labels. -/
theorem Parts.eq_of_text_eq {parts others : Parts} (unmarked : parts.Unmarked)
    (same : others.text = parts.text) : others = parts := by
  -- Three ampersands in all are those of the labels, so the other parts have none either.
  have unmarked' : others.Unmarked := by
    rw [Parts.unmarked_iff, same, ← Parts.unmarked_iff]
    exact unmarked
  rw [Parts.text_eq, Parts.text_eq] at same
  obtain ⟨audience, same⟩ :=
    Text.halves_of_append_mark unmarked'.1 unmarked.1 (List.append_cancel_left same)
  obtain ⟨code, same⟩ :=
    Text.halves_of_append_mark unmarked'.2.1 unmarked.2.1 (List.append_cancel_left same)
  obtain ⟨expiry, same⟩ :=
    Text.halves_of_append_mark unmarked'.2.2.1 unmarked.2.2.1 (List.append_cancel_left same)
  have policy := List.append_cancel_left same
  cases parts
  cases others
  simp_all only

theorem item_of_plain {part : List Char} (label : String)
    (plainLabel : ∀ character ∈ label.toList, (character = '&' || character = ' ') = false)
    (plain : ∀ character ∈ part, isPlain character = true) :
    ∀ character ∈ label.toList ++ part, (character = '&' || character = ' ') = false := by
  intro character member
  rcases List.mem_append.mp member with inLabel | inPart
  · exact plainLabel character inLabel
  · simp only [Bool.or_eq_false_iff, decide_eq_false_iff_not]
    constructor
    · rintro rfl
      exact notMem_of_plain plain rfl inPart
    · rintro rfl
      exact notMem_of_plain plain rfl inPart

/-- The items between ampersands and spaces are the scheme and the four labelled parts. -/
theorem Parts.Plain.pieces_text {parts : Parts} (plain : parts.Plain) :
    pieces (fun character => character = '&' || character = ' ') parts.text =
      ["SharedAccessSignature".toList, "sr=".toList ++ parts.audience, "sig=".toList ++ parts.code,
        "se=".toList ++ parts.expiry, "skn=".toList ++ parts.policy] := by
  have scheme : "SharedAccessSignature sr=".toList =
      "SharedAccessSignature".toList ++ ' ' :: "sr=".toList := by decide
  rw [Parts.text_eq, scheme, List.append_assoc, List.cons_append, ← List.append_assoc "sr=".toList,
    ← List.append_assoc "sig=".toList, ← List.append_assoc "se=".toList,
    Text.pieces_append (by simp) rfl,
    Text.pieces_append (item_of_plain "sr=" (by simp) plain.audience) rfl,
    Text.pieces_append (item_of_plain "sig=" (by simp) plain.code) rfl,
    Text.pieces_append (item_of_plain "se=" (by simp) plain.expiry) rfl,
    Text.pieces_of_absent (item_of_plain "skn=" (by simp) plain.policy)]

/-- The first item of a signature that starts with `se=` names this second, as an integer of
sixty-four bits. -/
def Expires (signature : String) (second : Int) : Prop :=
  ∃ before digits after,
    signature.toList.splitOnP (fun character => character = '&' || character = ' ') =
      before ++ ("se=".toList ++ digits) :: after ∧
    (∀ earlier ∈ before, ¬ "se=".toList <+: earlier) ∧ Numeral.readInt64 digits = .ok second

theorem expiry?_eq_some_iff (signature : String) (second : Int) :
    expiry? signature = some second ↔ Expires signature second := by
  have other (item : List Char) :
      (!"se=".toList.isPrefixOf item) = true ↔ ¬ "se=".toList <+: item := by
    rw [Bool.not_eq_true', ← Bool.not_eq_true, List.isPrefixOf_iff_prefix]
  have named (digits : List Char) :
      (Numeral.readInt64 (("se=".toList ++ digits).drop 3)).toOption = some second ↔
        Numeral.readInt64 digits = .ok second := by
    show (Numeral.readInt64 digits).toOption = some second ↔ _
    cases Numeral.readInt64 digits <;> simp [Except.toOption]
  unfold expiry? Expires
  rw [Text.pieces_eq_splitOnP]
  generalize signature.toList.splitOnP _ = items
  dsimp only
  constructor
  · intro found
    split at found
    · cases found
    · rename_i item first
      obtain ⟨starts, before, after, whole, others⟩ := List.find?_eq_some_iff_append.mp first
      obtain ⟨digits, rfl⟩ := List.isPrefixOf_iff_prefix.mp starts
      exact ⟨before, digits, after, whole,
        fun earlier member => (other earlier).mp (others earlier member), (named digits).mp found⟩
  · rintro ⟨before, digits, after, whole, others, read⟩
    have first : items.find? ("se=".toList.isPrefixOf ·) = some ("se=".toList ++ digits) :=
      List.find?_eq_some_iff_append.mpr
        ⟨List.isPrefixOf_iff_prefix.mpr (List.prefix_append _ _), before, after, whole,
          fun earlier member => (other earlier).mpr (others earlier member)⟩
    rw [first]
    exact (named digits).mpr read

/-- No other item is taken for the expiry. -/
theorem expiry?_sign (audience policy key : String) (expiresOn : Int64) :
    expiry? (sign audience policy key expiresOn.toInt) = some expiresOn.toInt := by
  unfold expiry?
  rw [toList_sign]
  dsimp only
  rw [(plain_signedParts audience policy key expiresOn.toInt).pieces_text]
  -- The labels of the items in front differ from `se=` in their first two letters.
  show (Numeral.readInt64 (Numeral.integer expiresOn.toInt)).toOption = _
  rw [Numeral.readInt64_integer]
  rfl

theorem eq_of_sign_eq {audience policy key audience' policy' key' : String}
    {expiresOn expiresOn' : Int64}
    (same : sign audience' policy' key' expiresOn'.toInt =
      sign audience policy key expiresOn.toInt) :
    audience' = audience ∧ policy' = policy ∧ expiresOn' = expiresOn := by
  have parts : signedParts audience' policy' key' expiresOn'.toInt =
      signedParts audience policy key expiresOn.toInt := by
    apply Parts.eq_of_text_eq (plain_signedParts audience policy key expiresOn.toInt).unmarked
    rw [← toList_sign, ← toList_sign, same]
  have tell := tell_signedParts audience policy key expiresOn
  have tell' := tell_signedParts audience' policy' key' expiresOn'
  rw [parts] at tell'
  have expiry := expiry?_sign audience' policy' key' expiresOn'
  rw [same, expiry?_sign, Option.some.injEq, Int64.toInt_inj] at expiry
  exact ⟨Option.some.inj (tell'.audienceRead.symm.trans tell.audienceRead),
    Option.some.inj (tell'.policyRead.symm.trans tell.policyRead), expiry.symm⟩

/-- The line break in what is signed is the only one. -/
theorem eq_of_signedText_eq {audience audience' : String} {expiresOn expiresOn' : Int64}
    (same : signedText audience' expiresOn'.toInt = signedText audience expiresOn.toInt) :
    audience' = audience ∧ expiresOn' = expiresOn := by
  have plain (text : String) : '\n' ∉ Text.Percent.encodeForm text :=
    notMem_of_plain (Text.Percent.formText_encodeForm text).isPlain rfl
  rw [signedText, signedText, String.ofList_inj] at same
  obtain ⟨encoded, digits⟩ := Text.halves_of_append_mark (plain audience') (plain audience) same
  have audiences := Text.Percent.decodeForm_encodeForm audience'
  have expiries := Numeral.readInt64_integer expiresOn'
  rw [encoded, Text.Percent.decodeForm_encodeForm, Option.some.injEq] at audiences
  rw [digits, Numeral.readInt64_integer, Except.ok.injEq, Int64.toInt_inj] at expiries
  exact ⟨audiences.symm, expiries.symm⟩

/-- A token determines what it was made from. It falls into labelled parts in one way, these tell
audience, policy and expiry, and the expiry is found in the token. What is signed determines
audience and expiry as well. -/
theorem sign_determines (audience policy key : String) (expiresOn : Int64) :
    (∃ parts : Parts,
      (∀ others : Parts,
        (sign audience policy key expiresOn.toInt).toList = others.text ↔ others = parts) ∧
      parts.Tell audience policy key expiresOn) ∧
    expiry? (sign audience policy key expiresOn.toInt) = some expiresOn.toInt ∧
    (∀ (audience' policy' key' : String) (expiresOn' : Int64),
      sign audience' policy' key' expiresOn'.toInt = sign audience policy key expiresOn.toInt →
        audience' = audience ∧ policy' = policy ∧ expiresOn' = expiresOn) ∧
    ∀ (audience' : String) (expiresOn' : Int64),
      signedText audience' expiresOn'.toInt = signedText audience expiresOn.toInt ↔
        audience' = audience ∧ expiresOn' = expiresOn := by
  refine ⟨⟨signedParts audience policy key expiresOn.toInt, fun others => ⟨fun same => ?_, ?_⟩,
    tell_signedParts audience policy key expiresOn⟩, expiry?_sign audience policy key expiresOn,
    fun _ _ _ _ same => eq_of_sign_eq same, fun _ _ => ⟨eq_of_signedText_eq, ?_⟩⟩
  · rw [toList_sign] at same
    exact Parts.eq_of_text_eq (plain_signedParts audience policy key expiresOn.toInt).unmarked
      same.symm
  · rintro rfl
    exact toList_sign audience policy key expiresOn.toInt
  · rintro ⟨rfl, rfl⟩
    rfl

/-- A zero byte behind a key makes no other token: the key is all that a token leaves open. An
encoded space in an audience does not pass for a space. -/
theorem sign_paddedKey :
    let token := sign "a%20" "" "k" (Int64.toInt (-1))
    sign "a%20" "" "k\x00" (Int64.toInt (-1)) = token ∧ expiry? token = some (-1) ∧
      sign "a " "" "k" (Int64.toInt (-1)) ≠ token ∧
      signedText "a " (Int64.toInt (-1)) ≠ signedText "a%20" (Int64.toInt (-1)) := by
  intro token
  have determined := sign_determines "a%20" "" "k" (-1)
  have block : Hash.keyBlock (Text.bytes "k\x00") = Hash.keyBlock (Text.bytes "k") := by decide
  have sameCode : code "a%20" "k\x00" (Int64.toInt (-1)) = code "a%20" "k" (Int64.toInt (-1)) := by
    unfold code Hash.hmac
    rw [block]
  have padded : sign "a%20" "" "k\x00" (Int64.toInt (-1)) = token := by
    show sign _ _ _ _ = sign _ _ _ _
    unfold sign
    rw [sameCode]
  refine ⟨padded, determined.2.1, fun same => ?_, fun same => ?_⟩
  · exact absurd (determined.2.2.1 "a " "" "k" (-1) same).1 (by decide)
  · exact absurd ((determined.2.2.2 "a " (-1)).mp same).1 (by decide)

end BusLink.Auth.Signature
