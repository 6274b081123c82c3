import BusLink.Auth.ConnectionString
import BusLink.Proofs.Text.Address

set_option autoImplicit false

namespace BusLink.Auth.ConnectionString

open Text (HostPart isBlank trimBlank)

/-- A segment gives a key a value: the name before its first equals sign is the key in any case of
its letters, and the value stands after it. Blanks around both do not count. -/
def Gives (segment : List Char) (key value : String) : Prop :=
  ∃ name rest, segment = name ++ '=' :: rest ∧ '=' ∉ name ∧
    (trimBlank name).map Char.toLower = key.toList.map Char.toLower ∧
    trimBlank rest = value.toList

/-- The last segment of a text that gives a key some value gives it this one. -/
def Assigns (text key value : String) : Prop :=
  ∃ before segment after, text.toList.splitOn ';' = before ++ segment :: after ∧
    Gives segment key value ∧ ∀ later ∈ after, ∀ other, ¬ Gives later key other

/-- A segment of a text that is neither blank nor has an equals sign. -/
def Stray (text : String) (segment : List Char) : Prop :=
  segment ∈ text.toList.splitOn ';' ∧ (∃ character ∈ segment, isBlank character = false) ∧
    '=' ∉ segment

/-- An endpoint with a scheme mark and a host part that is not blank. -/
def IsEndpoint (endpoint : String) : Prop :=
  "://".toList <:+: endpoint.toList ∧
    ∃ part, HostPart endpoint.toList part ∧ ∃ character ∈ part, isBlank character = false

/-- The texts that are connection strings. -/
structure Accepted (text : String) : Prop where
  wellFormed : ∀ segment, ¬ Stray text segment
  endpoint : ∃ endpoint, Assigns text "Endpoint" endpoint ∧ IsEndpoint endpoint
  secrets :
    (∃ signature, Assigns text "SharedAccessSignature" signature) ∧
      (¬ ∃ keyName, Assigns text "SharedAccessKeyName" keyName) ∧
      (¬ ∃ key, Assigns text "SharedAccessKey" key) ∨
    (¬ ∃ signature, Assigns text "SharedAccessSignature" signature) ∧
      (∃ keyName, Assigns text "SharedAccessKeyName" keyName) ∧
      ∃ key, Assigns text "SharedAccessKey" key

/-- The properties are what a text assigns to the known keys. -/
structure Describes (properties : ConnectionString) (text : String) : Prop where
  endpoint : Assigns text "Endpoint" properties.endpoint
  host : ∃ part, HostPart properties.endpoint.toList part ∧
    properties.host.toList = trimBlank part
  hostSome : properties.host ≠ ""
  hostPlain : '/' ∉ properties.host.toList
  keyName : ∀ keyName,
    properties.keyName = some keyName ↔ Assigns text "SharedAccessKeyName" keyName
  key : ∀ key, properties.key = some key ↔ Assigns text "SharedAccessKey" key
  signature : ∀ signature,
    properties.signature = some signature ↔ Assigns text "SharedAccessSignature" signature
  entityPath : ∀ path,
    properties.entityPath = some path ↔ Assigns text "EntityPath" path ∧ path ≠ ""

/-- The segments of a text that have an equals sign. -/
def readable (text : String) : List Segment :=
  (text.toList.splitOn ';').filterMap Segment.read?

def valueOf? (key : String) (segment : List Char) : Option String :=
  (Segment.read? segment).bind fun read => if read.key = key then some read.value else none

theorem read?_eq_none_iff (segment : List Char) : Segment.read? segment = none ↔ '=' ∉ segment := by
  rw [Segment.read?, Option.map_eq_none_iff, Text.cutAt_eq_none_iff]

theorem read?_append {name : List Char} (absent : '=' ∉ name) (rest : List Char) :
    Segment.read? (name ++ '=' :: rest) =
      some ⟨String.ofList ((trimBlank name).map Char.toLower), String.ofList (trimBlank rest)⟩ := by
  rw [Segment.read?, Text.cutAt_append '=' name rest absent]
  rfl

theorem read?_trimBlank (segment : List Char) :
    Segment.read? (trimBlank segment) = Segment.read? segment := by
  have halves := congrArg (Option.map fun halves : List Char × List Char =>
      (⟨String.ofList (halves.1.map Char.toLower), String.ofList halves.2⟩ : Segment))
    (Text.cutAt_trimBlank (show isBlank '=' = false from rfl) segment)
  rw [Option.map_map, Option.map_map] at halves
  exact halves

theorem valueOf?_eq_some_iff (key value : String) (segment : List Char) :
    valueOf? (Text.lower key) segment = some value ↔ Gives segment key value := by
  constructor
  · intro given
    obtain ⟨read, found, given⟩ := Option.bind_eq_some_iff.mp given
    obtain ⟨⟨name, rest⟩, cut, rfl⟩ := Option.map_eq_some_iff.mp found
    obtain ⟨whole, absent⟩ := Text.cutAt_eq_some_iff.mp cut
    rw [Option.ite_none_right_eq_some] at given
    obtain ⟨named, valued⟩ := given
    refine ⟨name, rest, whole, absent, String.ofList_inj.mp named, ?_⟩
    rw [← Option.some.inj valued, String.toList_ofList]
  · rintro ⟨name, rest, rfl, absent, named, valued⟩
    rw [valueOf?, read?_append absent, Option.bind_some, Text.lower,
      if_pos (congrArg String.ofList named)]
    dsimp only
    rw [valued, String.ofList_toList]

theorem valueOf?_eq_none_iff (key : String) (segment : List Char) :
    valueOf? (Text.lower key) segment = none ↔ ∀ value, ¬ Gives segment key value := by
  simp only [← valueOf?_eq_some_iff, Option.eq_none_iff_forall_ne_some, ne_eq]

theorem lastValue?_filterMap (key : String) (segments : List (List Char)) :
    lastValue? key (segments.filterMap Segment.read?) =
      segments.reverse.findSome? (valueOf? key) := by
  rw [lastValue?, ← List.filterMap_reverse]
  induction segments.reverse with
  | nil => rfl
  | cons segment rest ih =>
    rw [List.findSome?_cons, valueOf?, ← ih]
    cases found : Segment.read? segment with
    | none =>
      rw [List.filterMap_cons_none found]
      rfl
    | some read =>
      rw [List.filterMap_cons_some found, List.find?_cons, Option.bind_some]
      by_cases named : read.key = key <;> simp [named]

theorem lastValue?_eq_some_iff (text key value : String) :
    lastValue? (Text.lower key) (readable text) = some value ↔
      Assigns text key value := by
  rw [readable, lastValue?_filterMap, List.findSome?_eq_some_iff]
  constructor
  · rintro ⟨after, segment, before, whole, given, none⟩
    refine ⟨before.reverse, segment, after.reverse, ?_, (valueOf?_eq_some_iff _ _ _).mp given, ?_⟩
    · rw [List.reverse_eq_iff] at whole
      simp [whole]
    · intro later member
      exact (valueOf?_eq_none_iff key later).mp (none later (List.mem_reverse.mp member))
  · rintro ⟨before, segment, after, whole, given, none⟩
    refine ⟨after.reverse, segment, before.reverse, ?_, (valueOf?_eq_some_iff _ _ _).mpr given, ?_⟩
    · simp [whole]
    · intro later member
      exact (valueOf?_eq_none_iff key later).mpr (none later (List.mem_reverse.mp member))

theorem mapM_eq_some_filterMap {α β : Type} {read : α → Option β} {items : List α}
    (all : ∀ item ∈ items, read item ≠ none) : items.mapM read = some (items.filterMap read) := by
  induction items with
  | nil => rfl
  | cons item rest ih =>
    obtain ⟨first, others⟩ := List.forall_mem_cons.mp all
    obtain ⟨value, found⟩ := Option.ne_none_iff_exists'.mp first
    rw [List.mapM_cons, ih others, found, List.filterMap_cons_some found]
    rfl

theorem mapM_eq_none {α β : Type} {read : α → Option β} {items : List α} {item : α}
    (member : item ∈ items) (none : read item = none) : items.mapM read = Option.none := by
  induction items with
  | nil => cases member
  | cons first rest ih =>
    rw [List.mapM_cons]
    rcases List.mem_cons.mp member with rfl | later
    · rw [none]
      rfl
    · rw [ih later]
      cases read first <;> rfl

theorem filterMap_read? (segments : List (List Char)) :
    ((segments.map trimBlank).filter (!·.isEmpty)).filterMap Segment.read? =
      segments.filterMap Segment.read? := by
  induction segments with
  | nil => rfl
  | cons segment rest ih =>
    rw [List.map_cons, List.filter_cons]
    split
    · rw [List.filterMap_cons, List.filterMap_cons, read?_trimBlank, ih]
    · rename_i gone
      have blank : trimBlank segment = [] := by simpa using gone
      have none : Segment.read? segment = none := by
        rw [← read?_trimBlank, blank]
        rfl
      rw [List.filterMap_cons_none none, ih]

theorem stray_iff (text : String) (segment : List Char) :
    Stray text segment ↔ segment ∈ text.toList.splitOn ';' ∧ trimBlank segment ≠ [] ∧
      Segment.read? segment = none := by
  rw [Stray, read?_eq_none_iff, ne_eq, Text.trimBlank_eq_nil_iff]
  simp

theorem segments?_spec (text : String) :
    (∀ segment, ¬ Stray text segment) ∧
        segments? text = some (readable text) ∨
      (∃ segment, Stray text segment) ∧ segments? text = none := by
  have unfolded : segments? text =
      (((text.toList.splitOn ';').map trimBlank).filter (!·.isEmpty)).mapM Segment.read? := by
    rw [segments?, Text.pieces_eq_splitOn]
  by_cases found : ∃ segment, Stray text segment
  · refine .inr ⟨found, ?_⟩
    obtain ⟨segment, stray⟩ := found
    obtain ⟨member, some, none⟩ := (stray_iff text segment).mp stray
    rw [unfolded]
    apply mapM_eq_none (List.mem_filter.mpr ⟨List.mem_map_of_mem member, by simpa using some⟩)
    rw [read?_trimBlank, none]
  · have orderly : ∀ segment, ¬ Stray text segment := not_exists.mp found
    refine .inl ⟨orderly, ?_⟩
    rw [unfolded, mapM_eq_some_filterMap, filterMap_read?, readable]
    intro item member none
    obtain ⟨mapped, some⟩ := List.mem_filter.mp member
    obtain ⟨segment, inText, rfl⟩ := List.mem_map.mp mapped
    rw [read?_trimBlank] at none
    exact orderly segment ((stray_iff text segment).mpr ⟨inText, by simpa using some, none⟩)

/-- A signature, or both halves of a key and no signature. -/
def Secrets (keyName key signature : Option String) : Prop :=
  signature.isSome = true ∧ keyName = none ∧ key = none ∨
    signature = none ∧ keyName.isSome = true ∧ key.isSome = true

/-- What segments say if it is enough and does not contradict itself. -/
theorem ofSegments_eq_ok_iff (segments : List Segment) (properties : ConnectionString) :
    ofSegments segments = .ok properties ↔
      ∃ endpoint, lastValue? "endpoint" segments = some endpoint ∧
        (Text.occursIn "://".toList endpoint.toList = true ∧ hostOf endpoint ≠ "") ∧
        Secrets (lastValue? "sharedaccesskeyname" segments)
          (lastValue? "sharedaccesskey" segments) (lastValue? "sharedaccesssignature" segments) ∧
        properties =
          { endpoint, host := hostOf endpoint
            keyName := lastValue? "sharedaccesskeyname" segments
            key := lastValue? "sharedaccesskey" segments
            signature := lastValue? "sharedaccesssignature" segments
            entityPath := (lastValue? "entitypath" segments).filter (!·.isEmpty) } := by
  unfold ofSegments
  cases lastValue? "endpoint" segments with
  | none => simp
  | some endpoint =>
    generalize lastValue? "sharedaccesskeyname" segments = keyName
    generalize lastValue? "sharedaccesskey" segments = key
    generalize lastValue? "sharedaccesssignature" segments = signature
    -- The program asks for the flaw of the endpoint and the grammar for its absence.
    have sound_iff : (Text.occursIn "://".toList endpoint.toList = true ∧ hostOf endpoint ≠ "") ↔
        (!Text.occursIn "://".toList endpoint.toList || (hostOf endpoint).isEmpty) = false := by
      generalize Text.occursIn "://".toList endpoint.toList = marked
      cases marked <;> simp
    simp only [Option.some.injEq, exists_eq_left', sound_iff]
    generalize (!Text.occursIn "://".toList endpoint.toList || (hostOf endpoint).isEmpty) = flawed
    cases flawed with
    | true => simp
    | false =>
      cases keyName <;> cases key <;> cases signature <;>
        simp [Secrets, eq_comm (b := properties)]

theorem isSome_lastValue?_iff (text key : String) :
    (lastValue? (Text.lower key) (readable text)).isSome = true ↔
      ∃ value, Assigns text key value := by
  simp only [Option.isSome_iff_exists, lastValue?_eq_some_iff]

theorem lastValue?_eq_none_iff (text key : String) :
    lastValue? (Text.lower key) (readable text) = none ↔ ¬ ∃ value, Assigns text key value := by
  rw [← isSome_lastValue?_iff, Option.not_isSome_iff_eq_none]

theorem hostPart_hostOf {endpoint : String} (marked : "://".toList <:+: endpoint.toList) :
    ∃ part, HostPart endpoint.toList part ∧ (hostOf endpoint).toList = trimBlank part := by
  have slashes : ['/', '/'] <:+: "://".toList := ⟨[':'], [], rfl⟩
  refine ⟨_, Text.hostPart_headD (slashes.trans marked), ?_⟩
  rw [hostOf, String.toList_ofList]

theorem isEndpoint_iff (endpoint : String) :
    IsEndpoint endpoint ↔
      Text.occursIn "://".toList endpoint.toList = true ∧ hostOf endpoint ≠ "" := by
  rw [Text.occursIn_iff, IsEndpoint]
  refine and_congr_right fun marked => ?_
  obtain ⟨part, isPart, host⟩ := hostPart_hostOf marked
  have blank : hostOf endpoint = "" ↔ ∀ character ∈ part, isBlank character = true := by
    rw [← Text.trimBlank_eq_nil_iff, ← host, String.toList_eq_nil_iff]
  have some : hostOf endpoint ≠ "" ↔ ∃ character ∈ part, isBlank character = false := by
    simp [blank]
  rw [some]
  constructor
  · rintro ⟨other, isOther, found⟩
    rw [isPart.unique isOther]
    exact found
  · exact fun found => ⟨part, isPart, found⟩

theorem slash_notMem_hostOf (endpoint : String) : '/' ∉ (hostOf endpoint).toList := by
  rw [hostOf, String.toList_ofList, Text.headD_pieces]
  intro found
  have passed := List.mem_takeWhile_imp (Text.trimBlank_subset _ found)
  simp at passed

theorem parse_of_orderly {text : String} (orderly : ∀ segment, ¬ Stray text segment) :
    parse text = ofSegments (readable text) := by
  rcases segments?_spec text with ⟨_, read⟩ | ⟨⟨segment, stray⟩, _⟩
  · rw [parse, read]
  · exact absurd stray (orderly segment)

theorem parse_of_stray {text : String} {segment : List Char} (stray : Stray text segment) :
    parse text = .error .malformed := by
  rcases segments?_spec text with ⟨orderly, _⟩ | ⟨_, none⟩
  · exact absurd stray (orderly segment)
  · rw [parse, none]

theorem known_keys :
    "endpoint" = Text.lower "Endpoint" ∧
      "sharedaccesskeyname" = Text.lower "SharedAccessKeyName" ∧
      "sharedaccesskey" = Text.lower "SharedAccessKey" ∧
      "sharedaccesssignature" = Text.lower "SharedAccessSignature" ∧
      "entitypath" = Text.lower "EntityPath" := by
  decide

theorem secrets_iff (text : String) :
    Secrets (lastValue? "sharedaccesskeyname" (readable text))
        (lastValue? "sharedaccesskey" (readable text))
        (lastValue? "sharedaccesssignature" (readable text)) ↔
      (∃ signature, Assigns text "SharedAccessSignature" signature) ∧
        (¬ ∃ keyName, Assigns text "SharedAccessKeyName" keyName) ∧
        (¬ ∃ key, Assigns text "SharedAccessKey" key) ∨
      (¬ ∃ signature, Assigns text "SharedAccessSignature" signature) ∧
        (∃ keyName, Assigns text "SharedAccessKeyName" keyName) ∧
        ∃ key, Assigns text "SharedAccessKey" key := by
  obtain ⟨_, keyName, key, signature, _⟩ := known_keys
  rw [Secrets, keyName, key, signature]
  simp only [isSome_lastValue?_iff, lastValue?_eq_none_iff]

/-- Parsing finds the properties of every connection string and of no other text. -/
theorem accepted_iff (text : String) :
    Accepted text ↔ ∃ properties, parse text = .ok properties := by
  have endpointKey := known_keys.1
  constructor
  · rintro ⟨orderly, ⟨endpoint, assigned, sound⟩, secrets⟩
    rw [← lastValue?_eq_some_iff, ← endpointKey] at assigned
    have read := (ofSegments_eq_ok_iff (readable text) _).mpr
      ⟨endpoint, assigned, (isEndpoint_iff endpoint).mp sound, (secrets_iff text).mpr secrets, rfl⟩
    exact ⟨_, (parse_of_orderly orderly).trans read⟩
  · rintro ⟨properties, parsed⟩
    have orderly : ∀ segment, ¬ Stray text segment := by
      intro segment stray
      rw [parse_of_stray stray] at parsed
      cases parsed
    rw [parse_of_orderly orderly] at parsed
    obtain ⟨endpoint, assigned, sound, secrets, _⟩ := (ofSegments_eq_ok_iff _ _).mp parsed
    rw [endpointKey, lastValue?_eq_some_iff] at assigned
    exact ⟨orderly, ⟨endpoint, assigned, (isEndpoint_iff endpoint).mpr sound⟩,
      (secrets_iff text).mp secrets⟩

theorem describes_of_parse {text : String} {properties : ConnectionString}
    (parsed : parse text = .ok properties) : properties.Describes text := by
  have accepted := (accepted_iff text).mpr ⟨properties, parsed⟩
  rw [parse_of_orderly accepted.wellFormed] at parsed
  obtain ⟨endpoint, assigned, sound, _, rfl⟩ := (ofSegments_eq_ok_iff _ _).mp parsed
  obtain ⟨endpointKey, keyNameKey, keyKey, signatureKey, pathKey⟩ := known_keys
  exact
    { endpoint := by
        rw [← lastValue?_eq_some_iff, ← endpointKey]
        exact assigned
      host := hostPart_hostOf ((Text.occursIn_iff _ _).mp sound.1)
      hostSome := sound.2
      hostPlain := slash_notMem_hostOf endpoint
      keyName := fun keyName => by rw [← lastValue?_eq_some_iff, ← keyNameKey]
      key := fun key => by rw [← lastValue?_eq_some_iff, ← keyKey]
      signature := fun signature => by rw [← lastValue?_eq_some_iff, ← signatureKey]
      entityPath := fun path => by
        rw [← lastValue?_eq_some_iff, ← pathKey, Option.filter_eq_some_iff]
        simp }

/-- Parsing accepts exactly the connection strings and returns what they say. Whatever it refuses is
an invalid argument, and a stray segment is reported before any other flaw. -/
theorem parse_grammar (text : String) :
    ((∃ properties, parse text = .ok properties) ↔ Accepted text) ∧
    (∀ properties, parse text = .ok properties → properties.Describes text) ∧
    (∀ flaw, parse text = .error flaw → flaw.fault = .invalidArgument flaw.message) ∧
    ∀ segment, Stray text segment → parse text = .error .malformed :=
  ⟨(accepted_iff text).symm, fun _ => describes_of_parse, fun _ _ => rfl, fun _ => parse_of_stray⟩

/-- Keys in odd letters, blanks around them and a key that is given twice; then a stray segment
behind a bad endpoint and half a key. -/
theorem parse_oddTexts :
    let odd := " endpoint = sb://a//b; ;SHAREDACCESSSIGNATURE=x=;EntityPath=q;entitypath="
    let read : ConnectionString := ⟨"sb://a//b", "a", none, none, some "x=", none⟩
    let strayed := "Endpoint=nowhere;SharedAccessKey=k;stray"
    parse odd = .ok read ∧ Accepted odd ∧ read.Describes odd ∧
      Stray strayed "stray".toList ∧ parse strayed = .error .malformed := by
  intro odd read strayed
  have parsed : parse odd = .ok read := by decide
  have stray : Stray strayed "stray".toList :=
    ⟨by decide, ⟨'s', by decide, by decide⟩, by decide⟩
  exact ⟨parsed, (parse_grammar odd).1.mp ⟨read, parsed⟩, (parse_grammar odd).2.1 read parsed,
    stray, (parse_grammar strayed).2.2.2 "stray".toList stray⟩

end BusLink.Auth.ConnectionString
