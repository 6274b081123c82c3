import BusLink.Proofs.Auth.Rendering

set_option autoImplicit false

namespace BusLink.Auth.ConnectionString

open Text (trimBlank)

def Field.isSecret : Field → Bool
  | .key | .signature => true
  | .endpoint | .keyName | .entityPath => false

/-- Two texts are one and the same but for the value in one segment with the key of a field. -/
def SameBut (field : Field) (text text' : String) : Prop :=
  ∃ (before after : List (List Char)) (name value value' : List Char),
    '=' ∉ name ∧ (trimBlank name).map Char.toLower = field.letters ∧
    text.toList.splitOn ';' = before ++ (name ++ '=' :: value) :: after ∧
    text'.toList.splitOn ';' = before ++ (name ++ '=' :: value') :: after

/-- The same apart from the secrets, both in what is told openly and in what diagnostics show. -/
structure OpenlyAlike (properties properties' : ConnectionString) : Prop where
  endpoint : properties.endpoint = properties'.endpoint
  host : properties.host = properties'.host
  keyName : properties.keyName = properties'.keyName
  entityPath : properties.entityPath = properties'.entityPath
  describe : properties.describe = properties'.describe

/-- Two texts are refused for the same flaw, or read as the same apart from the secrets. -/
inductive Indistinct : Except Flaw ConnectionString → Except Flaw ConnectionString → Prop where
  | refused (flaw : Flaw) : Indistinct (.error flaw) (.error flaw)
  | read {properties properties' : ConnectionString} (alike : OpenlyAlike properties properties') :
    Indistinct (.ok properties) (.ok properties')

/-- Diagnostics are made of what is told openly. -/
theorem openlyAlike_of_fields {properties properties' : ConnectionString}
    (endpoint : properties.endpoint = properties'.endpoint)
    (host : properties.host = properties'.host)
    (keyName : properties.keyName = properties'.keyName)
    (entityPath : properties.entityPath = properties'.entityPath) :
    OpenlyAlike properties properties' := by
  refine ⟨endpoint, host, keyName, entityPath, ?_⟩
  unfold describe
  rw [endpoint, host, keyName, entityPath]

/-- Segments decide by whether there are secrets, never by which. -/
theorem ofSegments_indistinct {segments others : List Segment}
    (same : ∀ field : Field, field.isSecret = false →
      lastValue? (Text.lower field.name) segments = lastValue? (Text.lower field.name) others)
    (present : ∀ field : Field, (lastValue? (Text.lower field.name) segments).isSome =
      (lastValue? (Text.lower field.name) others).isSome) :
    Indistinct (ofSegments segments) (ofSegments others) := by
  obtain ⟨endpoint, keyName, -, -, path⟩ := Field.forall_known
    (fun field key => field.isSecret = false → lastValue? key segments = lastValue? key others) same
  obtain ⟨-, -, key, signature, -⟩ := Field.forall_known
    (fun _ key => (lastValue? key segments).isSome = (lastValue? key others).isSome) present
  unfold ofSegments
  simp only [endpoint rfl, keyName rfl, key, signature, path rfl]
  -- Now both sides decide by the same conditions, and only what is read has a secret in it.
  split
  · exact .refused .malformed
  · split
    · exact .refused .badEndpoint
    · split
      · exact .refused .keyAndSignature
      · exact .refused .neitherKeyNorSignature
      · split
        · exact .refused .halfKey
        · exact .read (openlyAlike_of_fields rfl rfl rfl rfl)

section SameBut

variable {field : Field} {text text' : String}

theorem SameBut.symm (same : SameBut field text text') : SameBut field text' text := by
  obtain ⟨before, after, name, value, value', uncut, named, whole, whole'⟩ := same
  exact ⟨before, after, name, value', value, uncut, named, whole', whole⟩

theorem SameBut.stray (same : SameBut field text text') {segment : List Char}
    (stray : Stray text segment) : Stray text' segment := by
  obtain ⟨before, after, name, value, value', _, _, whole, whole'⟩ := same
  obtain ⟨member, some, uncut⟩ := stray
  refine ⟨?_, some, uncut⟩
  have apart : segment ≠ name ++ '=' :: value := by
    rintro rfl
    simp at uncut
  rw [whole] at member
  rw [whole']
  simp only [List.mem_append, List.mem_cons, apart, false_or] at member ⊢
  exact member.imp_right .inr

theorem valueOf?_append {name : List Char} (uncut : '=' ∉ name)
    (named : (trimBlank name).map Char.toLower = field.letters) (value : List Char)
    (other : Field) :
    valueOf? (Text.lower other.name) (name ++ '=' :: value) =
      if field = other then some (String.ofList (trimBlank value)) else none := by
  refine Option.ext fun found => ?_
  rw [valueOf?_eq_some_iff, gives_append_iff uncut, named, Option.ite_none_right_eq_some,
    Option.some.injEq, ← String.toList_inj, String.toList_ofList]
  exact and_congr_left fun _ => Field.letters_inj

/-- Another secret is a secret all the same, and everything else is given as before. -/
theorem SameBut.lookups (same : SameBut field text text') (other : Field) :
    (lastValue? (Text.lower other.name) (readable text)).isSome =
        (lastValue? (Text.lower other.name) (readable text')).isSome ∧
      (field ≠ other → lastValue? (Text.lower other.name) (readable text) =
        lastValue? (Text.lower other.name) (readable text')) := by
  obtain ⟨before, after, name, value, value', uncut, named, whole, whole'⟩ := same
  rw [readable, readable, whole, whole', lastValue?_filterMap, lastValue?_filterMap]
  simp only [List.reverse_append, List.reverse_cons, List.append_assoc, List.findSome?_append,
    List.findSome?_cons, List.findSome?_nil, valueOf?_append uncut named]
  by_cases own : field = other
  · simp [own]
  · simp [own]

theorem SameBut.indistinct (secret : field.isSecret = true) (same : SameBut field text text') :
    Indistinct (parse text) (parse text') := by
  by_cases strayed : ∃ segment, Stray text segment
  · obtain ⟨segment, stray⟩ := strayed
    rw [parse_of_stray stray, parse_of_stray (same.stray stray)]
    exact .refused .malformed
  · have orderly := not_exists.mp strayed
    have orderly' (segment : List Char) : ¬ Stray text' segment :=
      fun stray => orderly segment (same.symm.stray stray)
    rw [parse_of_orderly orderly, parse_of_orderly orderly']
    refine ofSegments_indistinct (fun other told => ?_) fun other => (same.lookups other).1
    apply (same.lookups other).2
    rintro rfl
    cases secret.symm.trans told

theorem SameBut.given (same : SameBut field text text') :
    ∃ value, Assigns text field.name value := by
  obtain ⟨before, after, name, value, _, uncut, named, whole, _⟩ := same
  rw [← isSome_lastValue?_iff, readable, whole, lastValue?_filterMap]
  simp only [List.reverse_append, List.reverse_cons, List.append_assoc, List.findSome?_append,
    List.findSome?_cons, valueOf?_append uncut named]
  simp

theorem SameBut.credential (same : SameBut .key text text') {properties : ConnectionString}
    (parsed : parse text = .ok properties) :
    ∃ policy key, properties.credential = .ok (.sharedKey policy key Signature.defaultLifetime) := by
  have accepted := (accepted_iff text).mpr ⟨properties, parsed⟩
  have described := describes_of_parse parsed
  rcases accepted.secrets with ⟨_, _, none⟩ | ⟨unsigned, ⟨policy, named⟩, key, keyed⟩
  · exact absurd same.given none
  · have signature : properties.signature = none :=
      Option.eq_none_iff_forall_ne_some.mpr fun signature told =>
        unsigned ⟨signature, (described.signature signature).mp told⟩
    refine ⟨policy, key, ?_⟩
    rw [ConnectionString.credential, signature, (described.keyName policy).mpr named,
      (described.key key).mpr keyed]

end SameBut

/-- Connection strings that differ in one secret only are told apart neither by what is refused nor
by anything that is shown of what is read; with a key that differs, the credentials made of both are
shown alike too. -/
theorem secret_stays_hidden (field : Field) (text text' : String) (secret : field.isSecret = true)
    (same : SameBut field text text') :
    Indistinct (parse text) (parse text') ∧
      (field = .key → ∀ properties properties', parse text = .ok properties →
        parse text' = .ok properties' →
          ∃ made made', properties.credential = .ok made ∧ properties'.credential = .ok made' ∧
            made.describe = made'.describe) := by
  refine ⟨same.indistinct secret, ?_⟩
  rintro rfl properties properties' parsed parsed'
  obtain ⟨policy, key, made⟩ := same.credential parsed
  obtain ⟨policy', key', made'⟩ := same.symm.credential parsed'
  exact ⟨_, _, made, made', rfl⟩

/-- A key that looks like a segment, an endpoint and another key, and one that is blank; then
signatures in a text that is refused. -/
theorem secret_stays_hidden_oddKeys :
    let keyed := "Endpoint=sb://a; sharedaccesskey =Endpoint=sb://b=;SharedAccessKeyName=p"
    let keyed' := "Endpoint=sb://a; sharedaccesskey = ;SharedAccessKeyName=p"
    let signed := "Endpoint=sb://a;SharedAccessSignature=se=1;SharedAccessKeyName=p"
    let signed' := "Endpoint=sb://a;SharedAccessSignature=;SharedAccessKeyName=p"
    let read (key : String) : ConnectionString := ⟨"sb://a", "a", some "p", some key, none, none⟩
    SameBut .key keyed keyed' ∧ parse keyed = .ok (read "Endpoint=sb://b=") ∧
      parse keyed' = .ok (read "") ∧ Indistinct (parse keyed) (parse keyed') ∧
      (∃ made made', (read "Endpoint=sb://b=").credential = .ok made ∧
        (read "").credential = .ok made' ∧ made.describe = made'.describe) ∧
      SameBut .signature signed signed' ∧ Indistinct (parse signed) (parse signed') ∧
      parse signed = .error .keyAndSignature := by
  intro keyed keyed' signed signed' read
  have same : SameBut .key keyed keyed' :=
    ⟨["Endpoint=sb://a".toList], ["SharedAccessKeyName=p".toList], " sharedaccesskey ".toList,
      "Endpoint=sb://b=".toList, [' '], by decide, by decide, by decide, by decide⟩
  have same' : SameBut .signature signed signed' :=
    ⟨["Endpoint=sb://a".toList], ["SharedAccessKeyName=p".toList], "SharedAccessSignature".toList,
      "se=1".toList, [], by decide, by decide, by decide, by decide⟩
  have parsed : parse keyed = .ok (read "Endpoint=sb://b=") := by decide
  have parsed' : parse keyed' = .ok (read "") := by decide
  obtain ⟨indistinct, made⟩ := secret_stays_hidden .key keyed keyed' rfl same
  exact ⟨same, parsed, parsed', indistinct, made rfl _ _ parsed parsed', same',
    (secret_stays_hidden .signature signed signed' rfl same').1, by decide⟩

end BusLink.Auth.ConnectionString
