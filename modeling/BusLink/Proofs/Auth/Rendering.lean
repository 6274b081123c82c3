import BusLink.Proofs.Auth.ReadyMade

set_option autoImplicit false

namespace BusLink.Auth.ConnectionString

open Signature (Embeddable Expires)
open Text (isBlank trimBlank)

inductive Field where
  | endpoint
  | keyName
  | key
  | signature
  | entityPath
deriving DecidableEq, Repr

namespace Field

def all : List Field := [.endpoint, .keyName, .key, .signature, .entityPath]

def name : Field → String
  | .endpoint => "Endpoint"
  | .keyName => "SharedAccessKeyName"
  | .key => "SharedAccessKey"
  | .signature => "SharedAccessSignature"
  | .entityPath => "EntityPath"

def letters (field : Field) : List Char := field.name.toList.map Char.toLower

theorem mem_all (field : Field) : field ∈ all := by
  cases field <;> decide

theorem letters_inj {field other : Field} : field.letters = other.letters ↔ field = other := by
  cases field <;> cases other <;> decide

theorem forall_known (holds : Field → String → Prop)
    (all : ∀ field : Field, holds field (Text.lower field.name)) :
    holds .endpoint "endpoint" ∧ holds .keyName "sharedaccesskeyname" ∧
      holds .key "sharedaccesskey" ∧ holds .signature "sharedaccesssignature" ∧
      holds .entityPath "entitypath" := by
  obtain ⟨endpointKey, keyNameKey, keyKey, signatureKey, pathKey⟩ := known_keys
  rw [endpointKey, keyNameKey, keyKey, signatureKey, pathKey]
  exact ⟨all .endpoint, all .keyName, all .key, all .signature, all .entityPath⟩

theorem trimBlank_letters (field : Field) : trimBlank field.letters = field.letters := by
  cases field <;> decide

theorem notMem_letters (field : Field) : '=' ∉ field.letters ∧ ';' ∉ field.letters := by
  cases field <;> decide

end Field

/-- What a connection string says about a field. -/
def value? (properties : ConnectionString) : Field → Option String
  | .endpoint => some properties.endpoint
  | .keyName => properties.keyName
  | .key => properties.key
  | .signature => properties.signature
  | .entityPath => properties.entityPath

def entries (properties : ConnectionString) : List (Field × String) :=
  Field.all.filterMap fun field => (properties.value? field).map (field, ·)

/-- An address with a scheme and a host, and what may follow behind a slash. -/
structure Address where
  scheme : String
  host : String
  path : Option String

namespace Address

def text (address : Address) : String :=
  address.scheme ++ "://" ++ address.host ++
    match address.path with
    | none => ""
    | some path => "/" ++ path

/-- Scheme and host are there, and end at the slashes that follow them. -/
structure Sound (address : Address) : Prop where
  schemeSome : address.scheme ≠ ""
  schemePlain : '/' ∉ address.scheme.toList
  hostSome : Text.trim address.host ≠ ""
  hostPlain : '/' ∉ address.host.toList

end Address

/-- What connection strings authenticate with. -/
inductive Secret where
  | keyPair (keyName key : String)
  | readyMade (signature : String)

/-- What is written into a connection string. -/
structure Contents where
  address : Address
  secret : Secret
  entityPath : Option String

def Contents.properties (contents : Contents) : ConnectionString :=
  let blank : ConnectionString :=
    { endpoint := contents.address.text, host := Text.trim contents.address.host, keyName := none
      key := none, signature := none, entityPath := contents.entityPath }
  match contents.secret with
  | .keyPair keyName key => { blank with keyName := some keyName, key := some key }
  | .readyMade signature => { blank with signature := some signature }

/-- What can be written into a connection string. -/
structure Contents.Sound (contents : Contents) : Prop where
  address : contents.address.Sound
  -- No value has a semicolon in it or blanks around it.
  values : ∀ entry ∈ contents.properties.entries, Embeddable entry.2
  entityPath : contents.entityPath ≠ some ""

/-- A way to write a segment: the key in some case of its letters, and blanks around the key and the
value. -/
structure Spelling (field : Field) where
  key : List Char
  beforeKey : List Char
  afterKey : List Char
  beforeValue : List Char
  afterValue : List Char
  sameKey : key.map Char.toLower = field.name.toList.map Char.toLower
  blankKey : ∀ character ∈ beforeKey ++ afterKey, isBlank character = true
  blankValue : ∀ character ∈ beforeValue ++ afterValue, isBlank character = true

/-- A segment with a value, written that way. -/
def Spelling.write {field : Field} (spelling : Spelling field) (value : String) : List Char :=
  (spelling.beforeKey ++ spelling.key ++ spelling.afterKey) ++
    '=' :: (spelling.beforeValue ++ value.toList ++ spelling.afterValue)

/-- A segment of a connection string that is written out. -/
inductive Piece where
  | entry (field : Field) (value : String) (spelling : Spelling field)
  | blank (characters : List Char) (blank : ∀ character ∈ characters, isBlank character = true)
  -- A segment whose key is not known.
  | foreign (key value : List Char) (unbroken : ';' ∉ key ++ value) (uncut : '=' ∉ key)
      (unknown : ∀ field : Field,
        (trimBlank key).map Char.toLower ≠ field.name.toList.map Char.toLower)

namespace Piece

def write : Piece → List Char
  | .entry _ value spelling => spelling.write value
  | .blank characters _ => characters
  | .foreign key value _ _ _ => key ++ '=' :: value

/-- What a piece says. -/
def told? : Piece → Option (Field × String)
  | .entry field value _ => some (field, value)
  | _ => none

end Piece

def render (pieces : List Piece) : String :=
  String.ofList ([';'].intercalate (pieces.map Piece.write))

/-- No two segments of a text give the same known key a value. -/
def Unambiguous (text : String) : Prop :=
  (text.toList.splitOn ';').Pairwise fun first second =>
    ∀ (field : Field) (value other : String),
      Gives first field.name value → ¬ Gives second field.name other

/-- The credential that a secret makes, or none if it is a signature that names no expiry. -/
def Secret.Makes : Secret → Except Flaw Credential → Prop
  | .keyPair keyName key, made => made = .ok (.sharedKey keyName key Signature.defaultLifetime)
  | .readyMade signature, made =>
    (∀ second, made = .ok (.sharedToken signature second) ↔ Expires signature second) ∧
      ((∃ flaw, made = .error flaw) ↔ ¬ ∃ second, Expires signature second)

section Segments

theorem gives_append_iff {name : List Char} (absent : '=' ∉ name) (rest : List Char)
    (key value : String) :
    Gives (name ++ '=' :: rest) key value ↔
      (trimBlank name).map Char.toLower = key.toList.map Char.toLower ∧
        trimBlank rest = value.toList := by
  constructor
  · rintro ⟨other, others, same, first, named, valued⟩
    obtain ⟨rfl, rfl⟩ := Text.halves_of_append_mark absent first same
    exact ⟨named, valued⟩
  · rintro ⟨named, valued⟩
    exact ⟨name, rest, rfl, absent, named, valued⟩

theorem notMem_of_blank {characters : List Char} {mark : Char} (stays : isBlank mark = false)
    (blank : ∀ character ∈ characters, isBlank character = true) : mark ∉ characters := by
  intro found
  cases (blank mark found).symm.trans stays

namespace Spelling

variable {field : Field} (spelling : Spelling field)

theorem notMem_key {mark : Char} (stays : isBlank mark = false) (small : mark.toLower = mark)
    (absent : mark ∉ field.letters) :
    mark ∉ spelling.beforeKey ++ spelling.key ++ spelling.afterKey := by
  have around := notMem_of_blank stays spelling.blankKey
  have inside : mark ∉ spelling.key := by
    intro found
    apply absent
    rw [Field.letters, ← spelling.sameKey, ← small]
    exact List.mem_map_of_mem found
  simp only [List.mem_append, not_or] at around ⊢
  exact ⟨⟨around.1, inside⟩, around.2⟩

theorem trimBlank_key :
    (trimBlank (spelling.beforeKey ++ spelling.key ++ spelling.afterKey)).map Char.toLower =
      field.letters := by
  have blank := List.forall_mem_append.mp spelling.blankKey
  rw [Text.trimBlank_surrounded blank.1 blank.2, ← Text.trimBlank_toLower, spelling.sameKey]
  exact field.trimBlank_letters

theorem gives_iff {value : String} (trimmed : Text.trim value = value) (other : Field)
    (found : String) :
    Gives (spelling.write value) other.name found ↔ (field, value) = (other, found) := by
  have blank := List.forall_mem_append.mp spelling.blankValue
  have kept : trimBlank value.toList = value.toList := by
    rw [← Text.toList_trim, trimmed]
  rw [write, gives_append_iff (spelling.notMem_key rfl rfl field.notMem_letters.1),
    spelling.trimBlank_key, Text.trimBlank_surrounded blank.1 blank.2, kept, String.toList_inj,
    Prod.mk.injEq]
  exact and_congr_left fun _ => Field.letters_inj

theorem unbroken_write {value : String} (unbroken : ';' ∉ value.toList) :
    ';' ∉ spelling.write value := by
  have key := spelling.notMem_key rfl rfl field.notMem_letters.2
  have around := notMem_of_blank (show isBlank ';' = false from rfl) spelling.blankValue
  rw [write]
  simp only [List.mem_append, List.mem_cons, not_or] at key around ⊢
  exact ⟨key, by decide, ⟨around.1, unbroken⟩, around.2⟩

end Spelling

namespace Piece

variable {piece : Piece}

theorem gives_iff (sound : ∀ entry, piece.told? = some entry → Embeddable entry.2) (field : Field)
    (value : String) :
    Gives piece.write field.name value ↔ piece.told? = some (field, value) := by
  cases piece with
  | entry own written spelling =>
    rw [write, spelling.gives_iff (sound _ rfl).trimmed, told?, Option.some.injEq]
  | blank characters blank =>
    refine iff_of_false ?_ (by simp [told?])
    rintro ⟨name, rest, rfl, _⟩
    exact notMem_of_blank (show isBlank '=' = false from rfl) blank (by simp)
  | foreign key rest unbroken uncut unknown =>
    refine iff_of_false ?_ (by simp [told?])
    intro given
    exact unknown field ((gives_append_iff uncut rest _ _).mp given).1

theorem unbroken_write (sound : ∀ entry, piece.told? = some entry → Embeddable entry.2) :
    ';' ∉ piece.write := by
  cases piece with
  | entry field value spelling => exact spelling.unbroken_write (sound _ rfl).unbroken
  | blank characters blank => exact notMem_of_blank rfl blank
  | foreign key value unbroken uncut unknown =>
    simpa [write] using unbroken

theorem blank_or_cut (piece : Piece) :
    (∀ character ∈ piece.write, isBlank character = true) ∨ '=' ∈ piece.write := by
  cases piece with
  | entry field value spelling => exact .inr (by simp [write, Spelling.write])
  | blank characters blank => exact .inl blank
  | foreign key value unbroken uncut unknown => exact .inr (by simp [write])

end Piece
end Segments

section Orders

variable {text text' : String}

/-- What is given at all is the last thing that is given, if no key is given twice. -/
theorem assigns_iff_of_unambiguous (unambiguous : Unambiguous text) (field : Field)
    (value : String) :
    Assigns text field.name value ↔
      ∃ segment ∈ text.toList.splitOn ';', Gives segment field.name value := by
  constructor
  · rintro ⟨before, segment, after, whole, given, _⟩
    exact ⟨segment, by simp [whole], given⟩
  · rintro ⟨segment, member, given⟩
    obtain ⟨before, after, whole⟩ := List.append_of_mem member
    refine ⟨before, segment, after, whole, given, fun later among other => ?_⟩
    rw [Unambiguous, whole, List.pairwise_append, List.pairwise_cons] at unambiguous
    exact unambiguous.2.1.1 later among field value other given

theorem ofSegments_congr {segments others : List Segment}
    (same : ∀ field : Field, lastValue? (Text.lower field.name) segments =
      lastValue? (Text.lower field.name) others) :
    ofSegments segments = ofSegments others := by
  obtain ⟨endpoint, keyName, key, signature, path⟩ := Field.forall_known
    (fun _ key => lastValue? key segments = lastValue? key others) same
  unfold ofSegments
  rw [endpoint, keyName, key, signature, path]

/-- Texts that assign the same and stray in the same way are read in the same way. -/
theorem parse_congr
    (strays : (∃ segment, Stray text segment) ↔ ∃ segment, Stray text' segment)
    (assigned : ∀ (field : Field) (value : String),
      Assigns text field.name value ↔ Assigns text' field.name value) :
    parse text = parse text' := by
  by_cases strayed : ∃ segment, Stray text segment
  · obtain ⟨segment, stray⟩ := strayed
    obtain ⟨segment', stray'⟩ := strays.mp ⟨segment, stray⟩
    rw [parse_of_stray stray, parse_of_stray stray']
  · rw [parse_of_orderly (not_exists.mp strayed),
      parse_of_orderly (not_exists.mp (mt strays.mpr strayed))]
    refine ofSegments_congr fun field => Option.ext fun value => ?_
    rw [lastValue?_eq_some_iff, lastValue?_eq_some_iff, assigned]

theorem Unambiguous.perm (unambiguous : Unambiguous text)
    (reordered : (text'.toList.splitOn ';').Perm (text.toList.splitOn ';')) :
    Unambiguous text' := by
  apply List.Pairwise.perm unambiguous reordered.symm
  intro first second apart field value other given again
  exact apart field other value again given

theorem parse_of_perm (unambiguous : Unambiguous text)
    (reordered : (text'.toList.splitOn ';').Perm (text.toList.splitOn ';')) :
    parse text' = parse text := by
  apply parse_congr
  · simp only [Stray, reordered.mem_iff]
  · intro field value
    rw [assigns_iff_of_unambiguous unambiguous,
      assigns_iff_of_unambiguous (unambiguous.perm reordered)]
    simp only [reordered.mem_iff]

end Orders

section Renderings

theorem mem_entries_iff (properties : ConnectionString) (field : Field) (value : String) :
    (field, value) ∈ properties.entries ↔ properties.value? field = some value := by
  simp [entries, Field.mem_all]

theorem nodup_entries (properties : ConnectionString) :
    (properties.entries.map Prod.fst).Nodup := by
  have once : Field.all.Nodup := by decide
  rw [entries, List.map_filterMap, List.Nodup, List.pairwise_filterMap]
  refine once.imp fun apart first found second found' same => ?_
  simp only [Option.map_map, Option.map_eq_some_iff, Function.comp_apply] at found found'
  obtain ⟨_, _, rfl⟩ := found
  obtain ⟨_, _, rfl⟩ := found'
  exact apart same

theorem text_toList (address : Address) :
    ∃ rest, address.text.toList = (address.scheme.toList ++ [':']) ++ '/' :: '/' ::
      (address.host.toList ++ rest) ∧ ∀ first ∈ rest.head?, first = '/' := by
  have mark : "://".toList = [':', '/', '/'] := by decide
  unfold Address.text
  cases address.path with
  | none => exact ⟨[], by simp [mark], by simp⟩
  | some path => exact ⟨'/' :: path.toList, by simp [mark], by simp⟩

theorem hostPart_text {address : Address} (sound : address.Sound) :
    Text.HostPart address.text.toList address.host.toList := by
  obtain ⟨rest, whole, ends⟩ := text_toList address
  have plain : '/' ∉ address.scheme.toList ++ [':'] := by
    simp [sound.schemePlain]
  refine ⟨_, _, whole ▸ Text.firstSlashes_of_notMem plain _, ?_⟩
  have inside : ∀ character ∈ address.host.toList, decide (character ≠ '/') = true := by
    intro character member
    simpa using ne_of_mem_of_not_mem member sound.hostPlain
  rw [List.takeWhile_append_of_pos inside]
  cases rest with
  | nil => simp
  | cons first rest => simp [ends first rfl]

theorem isEndpoint_text {address : Address} (sound : address.Sound) :
    IsEndpoint address.text ∧ hostOf address.text = Text.trim address.host := by
  have marked : "://".toList <:+: address.text.toList := by
    obtain ⟨rest, whole, _⟩ := text_toList address
    refine ⟨address.scheme.toList, address.host.toList ++ rest, ?_⟩
    rw [whole, show "://".toList = [':', '/', '/'] by decide]
    simp
  obtain ⟨part, isPart, host⟩ := hostPart_hostOf marked
  rw [isPart.unique (hostPart_text sound), ← Text.toList_trim, String.toList_inj] at host
  refine ⟨(isEndpoint_iff _).mpr ⟨(Text.occursIn_iff _ _).mpr marked, ?_⟩, host⟩
  rw [host]
  exact sound.hostSome

variable {contents : Contents} {pieces : List Piece}

theorem mem_entries_of_complete
    (complete : (pieces.filterMap Piece.told?).Perm contents.properties.entries) {piece : Piece}
    (member : piece ∈ pieces) {entry : Field × String} (told : piece.told? = some entry) :
    entry ∈ contents.properties.entries :=
  complete.mem_iff.mp (List.mem_filterMap.mpr ⟨piece, member, told⟩)

section Sound

variable (sound : contents.Sound)
variable (complete : (pieces.filterMap Piece.told?).Perm contents.properties.entries)

include sound complete

theorem splitOn_render : (render pieces).toList.splitOn ';' = pieces.map Piece.write := by
  rw [render, String.toList_ofList]
  apply List.splitOn_intercalate
  · intro written member
    obtain ⟨piece, among, rfl⟩ := List.mem_map.mp member
    exact Piece.unbroken_write fun entry told =>
      sound.values entry (mem_entries_of_complete complete among told)
  · -- There is an endpoint, so something is written.
    have some : (Field.endpoint, contents.properties.endpoint) ∈ contents.properties.entries :=
      (mem_entries_iff _ _ _).mpr rfl
    rintro none
    rw [List.map_eq_nil_iff.mp none, List.filterMap_nil, List.nil_perm] at complete
    rw [complete] at some
    cases some

theorem gives_of_complete {piece : Piece} (member : piece ∈ pieces) (field : Field)
    (value : String) :
    Gives piece.write field.name value ↔ piece.told? = some (field, value) :=
  piece.gives_iff (fun entry told =>
    sound.values entry (mem_entries_of_complete complete member told)) field value

theorem unambiguous_render : Unambiguous (render pieces) := by
  have once : ((pieces.filterMap Piece.told?).map Prod.fst).Nodup :=
    (complete.map Prod.fst).nodup_iff.mpr (nodup_entries _)
  rw [List.Nodup, List.pairwise_map, List.pairwise_filterMap] at once
  rw [Unambiguous, splitOn_render sound complete, List.pairwise_map]
  refine once.imp_of_mem fun among among' apart field value other given given' => ?_
  rw [gives_of_complete sound complete among] at given
  rw [gives_of_complete sound complete among'] at given'
  exact apart _ given _ given' rfl

theorem assigns_render_iff (field : Field) (value : String) :
    Assigns (render pieces) field.name value ↔ contents.properties.value? field = some value := by
  rw [assigns_iff_of_unambiguous (unambiguous_render sound complete),
    splitOn_render sound complete, ← mem_entries_iff, ← complete.mem_iff, List.mem_filterMap]
  simp only [List.mem_map, exists_exists_and_eq_and]
  refine exists_congr fun piece => and_congr_right fun member => ?_
  exact gives_of_complete sound complete member field value

theorem not_stray_render (segment : List Char) : ¬ Stray (render pieces) segment := by
  rintro ⟨member, ⟨character, among, stays⟩, uncut⟩
  rw [splitOn_render sound complete] at member
  obtain ⟨piece, _, rfl⟩ := List.mem_map.mp member
  rcases piece.blank_or_cut with blank | cut
  · cases (blank character among).symm.trans stays
  · exact uncut cut

theorem parse_render : parse (render pieces) = .ok contents.properties := by
  have last (field : Field) : lastValue? (Text.lower field.name) (readable (render pieces)) =
      contents.properties.value? field := by
    refine Option.ext fun value => ?_
    rw [lastValue?_eq_some_iff, assigns_render_iff sound complete]
  obtain ⟨endpointIs, keyNameIs, keyIs, signatureIs, pathIs⟩ := Field.forall_known
    (fun field key => lastValue? key (readable (render pieces)) = contents.properties.value? field)
    last
  obtain ⟨isEndpoint, host⟩ := isEndpoint_text sound.address
  have path : contents.entityPath.filter (!·.isEmpty) = contents.entityPath := by
    cases given : contents.entityPath with
    | none => rfl
    | some path =>
      have some : path ≠ "" := fun none => sound.entityPath (none ▸ given)
      exact Option.filter_some_pos (by simpa using some)
  rw [parse_of_orderly (not_stray_render sound complete), ofSegments_eq_ok_iff, endpointIs,
    keyNameIs, keyIs, signatureIs, pathIs]
  refine ⟨contents.address.text, ?_, (isEndpoint_iff _).mp isEndpoint, ?_, ?_⟩
  all_goals unfold Contents.properties; cases contents.secret
  · rfl
  · rfl
  · exact .inr ⟨rfl, rfl, rfl⟩
  · exact .inl ⟨rfl, rfl, rfl⟩
  · simp only [value?, host, path]
  · simp only [value?, host, path]

end Sound

theorem makes_credential (contents : Contents) :
    contents.secret.Makes contents.properties.credential := by
  unfold Contents.properties
  cases contents.secret with
  | keyPair keyName key => rfl
  | readyMade signature =>
    simp only [Secret.Makes, credential, ← Signature.expiry?_eq_some_iff]
    cases Signature.expiry? signature <;> simp

end Renderings

/-- Whatever is written into a connection string is read from it, in every spelling and order, and
makes the credential that it stands for. Where no known key is given twice, the order of the
segments makes no difference, whether the text is read or refused. -/
theorem render_readBack :
    (∀ (contents : Contents) (pieces : List Piece), contents.Sound →
      (pieces.filterMap Piece.told?).Perm contents.properties.entries →
      parse (render pieces) = .ok contents.properties ∧
        contents.secret.Makes contents.properties.credential) ∧
    ∀ text text' : String, Unambiguous text →
      (text'.toList.splitOn ';').Perm (text.toList.splitOn ';') → parse text' = parse text :=
  ⟨fun contents _ sound complete => ⟨parse_render sound complete, makes_credential contents⟩,
    fun _ _ => parse_of_perm⟩

/-- Equals signs in values, a host with blanks around it, and a policy without a name. -/
def oddContents : Contents where
  address := ⟨"s=b", " host a ", some "/x=y"⟩
  secret := .keyPair "" "k=="
  entityPath := some "q"

/-- The contents written backwards, between segments that say nothing. -/
def oddPieces : List Piece :=
  have blank {characters : List Char} (all : characters.all isBlank = true) :=
    List.all_eq_true.mp all
  [.foreign "Endpoint s".toList "=sb://other".toList (by decide) (by decide)
      (fun field => by cases field <;> decide),
    .entry .entityPath "q"
      ⟨"eNTITYpATH".toList, [' '], ['\t'], [], ['\n'], by decide, blank rfl, blank rfl⟩,
    .blank [' ', '\t'] (blank rfl),
    .entry .key "k=="
      ⟨"SHAREDACCESSKEY".toList, [], [], [' '], [' '], by decide, blank rfl, blank rfl⟩,
    .entry .endpoint "s=b:// host a //x=y"
      ⟨"endpoint".toList, [], [' '], [], [], by decide, blank rfl, blank rfl⟩,
    .blank [] (blank rfl),
    .entry .keyName ""
      ⟨"SharedAccessKeyName".toList, [], [], [], [], by decide, blank rfl, blank rfl⟩]

theorem render_readBack_oddPieces :
    let text := "SharedAccessKey=k;Endpoint=nowhere"
    let text' := "Endpoint=nowhere;SharedAccessKey=k"
    oddContents.Sound ∧
      (oddPieces.filterMap Piece.told?).Perm oddContents.properties.entries ∧
      parse (render oddPieces) = .ok oddContents.properties ∧
      oddContents.properties.credential = .ok (.sharedKey "" "k==" Signature.defaultLifetime) ∧
      Unambiguous text ∧ (text'.toList.splitOn ';').Perm (text.toList.splitOn ';') ∧
      parse text' = parse text ∧ parse text = .error .badEndpoint := by
  intro text text'
  have sound : oddContents.Sound :=
    { address := ⟨by decide, by decide, by decide, by decide⟩
      values := by
        have all : ∀ entry ∈ oddContents.properties.entries,
            ';' ∉ entry.2.toList ∧ Text.trim entry.2 = entry.2 := by decide
        exact fun entry member => ⟨(all entry member).1, (all entry member).2⟩
      entityPath := by decide }
  have complete : (oddPieces.filterMap Piece.told?).Perm oddContents.properties.entries := by
    decide
  have unambiguous : Unambiguous text := by
    have split : text.toList.splitOn ';' =
        ["SharedAccessKey".toList ++ '=' :: ['k'], "Endpoint".toList ++ '=' :: "nowhere".toList] := by
      decide
    rw [Unambiguous, split, List.pairwise_pair]
    intro field value other given given'
    have first := ((gives_append_iff (by decide) _ _ _).mp given).1
    have second := ((gives_append_iff (by decide) _ _ _).mp given').1
    exact absurd (first.trans second.symm) (by decide)
  have reordered : (text'.toList.splitOn ';').Perm (text.toList.splitOn ';') := by decide
  obtain ⟨read, made⟩ := render_readBack.1 oddContents oddPieces sound complete
  exact ⟨sound, complete, read, made, unambiguous, reordered,
    render_readBack.2 text text' unambiguous reordered, by decide⟩

end BusLink.Auth.ConnectionString
