import BusLink.Proofs.Auth.Grammar
import BusLink.Proofs.Auth.Token

set_option autoImplicit false

namespace BusLink.Auth

open Text (isBlank trimBlank)
open Text.Percent (isPlain)

namespace Signature

/-- What can be put into a connection string as it is. -/
structure Embeddable (signature : String) : Prop where
  unbroken : ';' ∉ signature.toList
  trimmed : Text.trim signature = signature

theorem dropEndWhile_of_plain {characters : List Char}
    (plain : ∀ character ∈ characters, isPlain character = true) :
    Text.dropEndWhile isBlank characters = characters := by
  rw [Text.dropEndWhile_eq_rdropWhile, List.rdropWhile_eq_self_iff]
  intro some
  rw [Text.Percent.isBlank_of_isPlain (plain _ (List.getLast_mem some))]
  exact Bool.false_ne_true

theorem Parts.Plain.semicolon_notMem {parts : Parts} (plain : parts.Plain) :
    ';' ∉ parts.text := by
  have first : ';' ∉ "SharedAccessSignature sr=".toList := by decide
  have second : ';' ∉ "&sig=".toList := by decide
  have third : ';' ∉ "&se=".toList := by decide
  have fourth : ';' ∉ "&skn=".toList := by decide
  have foreign : isPlain ';' = false := rfl
  unfold Parts.text
  simp only [List.mem_append, first, second, third, fourth, notMem_of_plain plain.audience foreign,
    notMem_of_plain plain.code foreign, notMem_of_plain plain.expiry foreign,
    notMem_of_plain plain.policy foreign, or_self, not_false_eq_true]

theorem Parts.Plain.trimBlank_text {parts : Parts} (plain : parts.Plain) :
    trimBlank parts.text = parts.text := by
  have scheme : "SharedAccessSignature sr=".toList = 'S' :: "haredAccessSignature sr=".toList := by
    decide
  have label : "&skn=".toList = "&skn".toList ++ ['='] := by decide
  have shape : ∃ middle, parts.text = 'S' :: middle ++ '=' :: parts.policy := by
    refine ⟨"haredAccessSignature sr=".toList ++ parts.audience ++ "&sig=".toList ++ parts.code ++
      "&se=".toList ++ parts.expiry ++ "&skn".toList, ?_⟩
    unfold Parts.text
    simp only [scheme, label, List.append_assoc, List.cons_append, List.nil_append]
  obtain ⟨middle, shape⟩ := shape
  rw [shape, Text.trimBlank_append rfl, dropEndWhile_of_plain plain.policy,
    List.dropWhile_cons_of_neg (by decide)]

/-- A signed token can be put into a connection string. -/
theorem embeddable_sign (audience policy key : String) (expiresOn : Int) :
    Embeddable (sign audience policy key expiresOn) where
  unbroken := by
    rw [toList_sign]
    exact (plain_signedParts audience policy key expiresOn).semicolon_notMem
  trimmed := by
    rw [Text.trim, toList_sign, (plain_signedParts audience policy key expiresOn).trimBlank_text,
      ← toList_sign, String.ofList_toList]

end Signature

namespace ConnectionString

open Signature (Embeddable)

def signatureText (endpoint signature : String) : String :=
  "Endpoint=" ++ endpoint ++ ";SharedAccessSignature=" ++ signature

/-- Asks the credential that a connection string describes for a token. -/
def fetch {ρ : Type} (text : String) (vault : Vault) (now : Int) (scopes : List String)
    (source : List String → StateM ρ (Except Fault AccessToken)) :
    StateM ρ (Except Fault AccessToken) :=
  match parse text >>= credential with
  | .error flaw => pure (.error flaw.fault)
  | .ok described => described.token vault now scopes source

/-- Whatever is asked of the credential of a text, it answers this. -/
def Fetches (text : String) (answer : Except Fault AccessToken) : Prop :=
  ∀ (ρ : Type) (vault : Vault) (now : Int) (scopes : List String)
    (source : List String → StateM ρ (Except Fault AccessToken)),
    fetch text vault now scopes source = pure answer

/-- Whatever is asked of a slot with this signature, it answers this. -/
def Hands (signature : String) (answer : Except Fault AccessToken) : Prop :=
  ∀ (ρ : Type) (slot : Nat) (vault : Vault) (now : Int) (scopes : List String)
    (source : List String → StateM ρ (Except Fault AccessToken)),
    (Credential.signature slot).token (vault.replace slot signature) now scopes source = pure answer

/-- Both ways of using a signature give the signature with the same expiry, or none of them gives a
token. -/
def Agree (text signature : String) : Prop :=
  (∃ expiresOn, Fetches text (.ok ⟨signature, expiresOn⟩) ∧
    Hands signature (.ok ⟨signature, expiresOn⟩)) ∨
  ∃ message message', Fetches text (.error (.invalidArgument message)) ∧
    Hands signature (.error (.invalidArgument message'))

theorem splitOn_signatureText {endpoint signature : String} (unbroken : ';' ∉ endpoint.toList)
    (embeddable : Embeddable signature) :
    (signatureText endpoint signature).toList.splitOn ';' =
      ["Endpoint".toList ++ '=' :: endpoint.toList,
        "SharedAccessSignature".toList ++ '=' :: signature.toList] := by
  have first : "Endpoint=".toList = "Endpoint".toList ++ ['='] := by decide
  have second : ";SharedAccessSignature=".toList =
      ';' :: ("SharedAccessSignature".toList ++ ['=']) := by decide
  have plain (label characters : List Char) (plainLabel : ';' ∉ label) (absent : ';' ∉ characters) :
      ∀ character ∈ label ++ '=' :: characters, decide (character = ';') = false := by
    intro character member
    rw [decide_eq_false_iff_not]
    rintro rfl
    simp [plainLabel, absent] at member
  rw [← Text.pieces_eq_splitOn, signatureText, String.toList_append, String.toList_append,
    String.toList_append, first, second]
  simp only [List.append_assoc, List.cons_append, List.nil_append]
  rw [← List.cons_append, ← List.append_assoc,
    Text.pieces_append (plain _ _ (by decide) unbroken) (by decide),
    Text.pieces_of_absent (plain _ _ (by decide) embeddable.unbroken)]

theorem parse_signatureText {endpoint signature : String} (unbroken : ';' ∉ endpoint.toList)
    (isEndpoint : IsEndpoint (Text.trim endpoint)) (embeddable : Embeddable signature) :
    parse (signatureText endpoint signature) = .ok
      { endpoint := Text.trim endpoint, host := hostOf (Text.trim endpoint), keyName := none
        key := none, signature := some signature, entityPath := none } := by
  have split := splitOn_signatureText unbroken embeddable
  have orderly : ∀ segment, ¬ Stray (signatureText endpoint signature) segment := by
    rintro segment ⟨member, _, absent⟩
    rw [split] at member
    rcases List.mem_pair.mp member with rfl | rfl <;> simp at absent
  have names : (trimBlank "Endpoint".toList).map Char.toLower = "endpoint".toList ∧
      (trimBlank "SharedAccessSignature".toList).map Char.toLower =
        "sharedaccesssignature".toList := by decide
  have read : readable (signatureText endpoint signature) =
      [⟨"endpoint", Text.trim endpoint⟩, ⟨"sharedaccesssignature", signature⟩] := by
    rw [readable, split, List.filterMap_cons_some (read?_append (by decide) endpoint.toList),
      List.filterMap_cons_some (read?_append (by decide) signature.toList), List.filterMap_nil,
      names.1, names.2, String.ofList_toList, String.ofList_toList]
    rw [← Text.trim, ← Text.trim, embeddable.trimmed]
  rw [parse_of_orderly orderly, ofSegments_eq_ok_iff, read]
  exact ⟨Text.trim endpoint, rfl, (isEndpoint_iff _).mp isEndpoint, .inl ⟨rfl, rfl, rfl⟩, rfl⟩

theorem credential_signatureText {endpoint signature : String} (unbroken : ';' ∉ endpoint.toList)
    (isEndpoint : IsEndpoint (Text.trim endpoint)) (embeddable : Embeddable signature) :
    (parse (signatureText endpoint signature) >>= credential) =
      (Signature.expiry? signature).elim (.error .malformed) fun expiresOn =>
        .ok (.sharedToken signature expiresOn) := by
  rw [parse_signatureText unbroken isEndpoint embeddable]
  simp only [bind, Except.bind, credential]
  cases Signature.expiry? signature <;> rfl

theorem fetches_of_error {text : String} {flaw : Flaw}
    (refused : (parse text >>= credential) = .error flaw) : Fetches text (.error flaw.fault) := by
  intro ρ vault now scopes source
  rw [fetch, refused]

theorem fetches_of_sharedToken {text token : String} {expiresOn : Int}
    (described : (parse text >>= credential) = .ok (.sharedToken token expiresOn)) :
    Fetches text (.ok ⟨token, expiresOn⟩) := by
  intro ρ vault now scopes source
  rw [fetch, described]
  rfl

theorem hands_ofSignature (signature : String) :
    Hands signature (Credential.ofSignature signature) := by
  intro ρ slot vault now scopes source
  rw [Credential.token, Vault.signature_replace, if_pos rfl]

theorem hands_of_expiry {signature : String} {expiresOn : Int}
    (found : Signature.expiry? signature = some expiresOn) :
    Hands signature (.ok ⟨signature, expiresOn⟩) := by
  have handed := hands_ofSignature signature
  rw [Credential.ofSignature, found] at handed
  exact handed

theorem fetches_of_expiry {endpoint signature : String} {expiresOn : Int}
    (unbroken : ';' ∉ endpoint.toList) (isEndpoint : IsEndpoint (Text.trim endpoint))
    (embeddable : Embeddable signature) (found : Signature.expiry? signature = some expiresOn) :
    Fetches (signatureText endpoint signature) (.ok ⟨signature, expiresOn⟩) := by
  apply fetches_of_sharedToken
  rw [credential_signatureText unbroken isEndpoint embeddable, found]
  rfl

/-- Whether there is a token, and with which expiry, only hangs on the signature. -/
theorem agree_signatureText {endpoint signature : String} (unbroken : ';' ∉ endpoint.toList)
    (isEndpoint : IsEndpoint (Text.trim endpoint)) (embeddable : Embeddable signature) :
    Agree (signatureText endpoint signature) signature := by
  cases found : Signature.expiry? signature with
  | some expiresOn =>
    exact .inl ⟨expiresOn, fetches_of_expiry unbroken isEndpoint embeddable found,
      hands_of_expiry found⟩
  | none =>
    have described := credential_signatureText unbroken isEndpoint embeddable
    have handed := hands_ofSignature signature
    rw [Credential.ofSignature, found] at handed
    rw [found] at described
    exact .inr ⟨_, _, fetches_of_error described, handed⟩

/-- Both ways of using a ready made signature agree, and a signed token comes back through both
with its own expiry. -/
theorem readyMade_agree (endpoint : String) (unbroken : ';' ∉ endpoint.toList)
    (isEndpoint : IsEndpoint (Text.trim endpoint)) :
    (∀ signature, Embeddable signature → Agree (signatureText endpoint signature) signature) ∧
    ∀ (audience policy key : String) (expiresOn : Int64),
      Embeddable (Signature.sign audience policy key expiresOn.toInt) ∧
      Fetches (signatureText endpoint (Signature.sign audience policy key expiresOn.toInt))
        (.ok ⟨Signature.sign audience policy key expiresOn.toInt, expiresOn.toInt⟩) ∧
      Hands (Signature.sign audience policy key expiresOn.toInt)
        (.ok ⟨Signature.sign audience policy key expiresOn.toInt, expiresOn.toInt⟩) := by
  refine ⟨fun signature embeddable => agree_signatureText unbroken isEndpoint embeddable,
    fun audience policy key expiresOn => ?_⟩
  have embeddable := Signature.embeddable_sign audience policy key expiresOn.toInt
  have found := Signature.expiry?_sign audience policy key expiresOn
  exact ⟨embeddable, fetches_of_expiry unbroken isEndpoint embeddable found, hands_of_expiry found⟩

theorem readyMade_slashedHost :
    IsEndpoint (Text.trim "sb://host/") ∧ Embeddable "se=5" ∧
      Agree (signatureText "sb://host/" "se=5") "se=5" ∧
      Fetches (signatureText "sb://host/" (Signature.sign "a b" "" "k;" (Int64.toInt (-1))))
        (.ok ⟨Signature.sign "a b" "" "k;" (Int64.toInt (-1)), -1⟩) := by
  have isEndpoint : IsEndpoint (Text.trim "sb://host/") := (isEndpoint_iff _).mpr (by decide)
  have embeddable : Embeddable "se=5" := ⟨by decide, by decide⟩
  have both := readyMade_agree "sb://host/" (by decide) isEndpoint
  exact ⟨isEndpoint, embeddable, both.1 "se=5" embeddable, (both.2 "a b" "" "k;" (-1)).2.1⟩

end ConnectionString
end BusLink.Auth
