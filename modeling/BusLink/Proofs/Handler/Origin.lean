import BusLink.Proofs.Auth.Grammar
import BusLink.Proofs.Auth.Token
import BusLink.Proofs.Retry.Waits
import BusLink.Rehearsal

set_option autoImplicit false

namespace BusLink

open Text (isBlank trimBlank)

theorem mapError_eq_ok_iff {ε δ α : Type} {first : Except ε α} {reword : ε → δ} {value : α} :
    first.mapError reword = .ok value ↔ first = .ok value := by
  cases first <;> simp [Except.mapError]

namespace Auth.ConnectionString

/-- The text stands for this credential: a signature with the expiry that it names, or a key pair
that signs tokens of the usual lifetime. -/
def Entitles (text : String) (credential : Credential) : Prop :=
  (∃ signature second, Assigns text "SharedAccessSignature" signature ∧
    Signature.Expires signature second ∧ credential = .sharedToken signature second) ∨
  ∃ keyName key, Assigns text "SharedAccessKeyName" keyName ∧ Assigns text "SharedAccessKey" key ∧
    credential = .sharedKey keyName key Signature.defaultLifetime

variable {text : String} {properties : ConnectionString}

theorem secrets_of_parse (parsed : parse text = .ok properties) :
    Secrets properties.keyName properties.key properties.signature := by
  have accepted := (accepted_iff text).mpr ⟨properties, parsed⟩
  rw [parse_of_orderly accepted.wellFormed] at parsed
  obtain ⟨_, _, _, secrets, rfl⟩ := (ofSegments_eq_ok_iff _ _).mp parsed
  exact secrets

theorem credential_eq_ok_iff (parsed : parse text = .ok properties) (credential : Credential) :
    properties.credential = .ok credential ↔ Entitles text credential := by
  have describes := describes_of_parse parsed
  simp only [Entitles, ← describes.signature, ← describes.keyName, ← describes.key,
    ← Signature.expiry?_eq_some_iff]
  unfold ConnectionString.credential
  rcases secrets_of_parse parsed with ⟨signed, noName, noKey⟩ | ⟨unsigned, named, keyed⟩
  · obtain ⟨signature, signed⟩ := Option.isSome_iff_exists.mp signed
    rw [signed, noName]
    cases found : Signature.expiry? signature <;> simp [found, eq_comm]
  · obtain ⟨keyName, named⟩ := Option.isSome_iff_exists.mp named
    obtain ⟨key, keyed⟩ := Option.isSome_iff_exists.mp keyed
    rw [unsigned, named, keyed]
    simp [eq_comm]

theorem Describes.trim_host (describes : properties.Describes text) :
    Text.trim properties.host = properties.host := by
  obtain ⟨part, _, host⟩ := describes.host
  rw [Text.trim, host, Text.trimBlank_trimBlank, ← host, String.ofList_toList]

end Auth.ConnectionString

namespace Configuration

theorem ofOptions_default (hostname : String) :
    ∃ configuration, ofOptions hostname {} = .ok configuration := by
  have unit : checkSeconds "retry_backoff_factor" ({} : Options).waitUnit = .ok () :=
    checkSeconds_eq_ok_iff.mpr ⟨by decide +kernel, by decide +kernel⟩
  have longest : checkSeconds "retry_backoff_max" ({} : Options).longestWait = .ok () :=
    checkSeconds_eq_ok_iff.mpr ⟨by decide +kernel, by decide +kernel⟩
  rw [ofOptions, unit, longest]
  exact ⟨_, rfl⟩

end Configuration

namespace Blueprint

/-- One of two names is this one, and none of them is another one. -/
def Agrees (given named : Option String) (name : String) : Prop :=
  (given = some name ∨ named = some name) ∧
    (∀ other, given = some other → other = name) ∧ ∀ other, named = some other → other = name

/-- A name with a character that is not blank. -/
def Named (name : String) : Prop :=
  ∃ character ∈ name.toList, isBlank character = false

/-- A failure that is blamed on an argument. -/
def Blames {α : Type} (result : Except Fault α) : Prop :=
  ∀ fault, result = .error fault → ∃ message, fault = .invalidArgument message

theorem Blames.bind {α β : Type} {first : Except Fault α} {next : α → Except Fault β}
    (blamed : Blames first) (later : ∀ found, Blames (next found)) : Blames (first >>= next) := by
  intro fault failed
  rcases bind_eq_error_iff.mp failed with atOnce | ⟨found, _, failed⟩
  · exact blamed fault atOnce
  · exact later found fault failed

theorem blames_error {α : Type} (message : String) :
    Blames (.error (.invalidArgument message) : Except Fault α) :=
  fun _ failed => ⟨message, (Except.error.inj failed).symm⟩

theorem blames_mapError {α : Type} (result : Except Auth.ConnectionString.Flaw α) :
    Blames (result.mapError Auth.ConnectionString.Flaw.fault) := by
  intro fault failed
  cases result with
  | error flaw => exact ⟨flaw.message, (Except.error.inj failed).symm⟩
  | ok _ => cases failed

theorem entityOf_eq_ok_iff (given named : Option String) (name : String) :
    entityOf given named = .ok name ↔ Agrees given named name := by
  unfold entityOf Agrees
  cases given <;> cases named <;> grind

theorem blames_entityOf (given named : Option String) : Blames (entityOf given named) := by
  unfold entityOf Blames
  grind

/-- What a connection string and the caller's name for the entity come to together. -/
structure Origin (text : String) (given : Option String) where
  properties : Auth.ConnectionString
  credential : Auth.Credential
  name : String
  parsed : Auth.ConnectionString.parse text = .ok properties
  described : properties.credential = .ok credential
  agreed : Agrees given properties.entityPath name

def Origin.blueprint {text : String} {given : Option String} (origin : Origin text given) :
    Blueprint where
  host := origin.properties.host
  entityName := origin.name
  credential := origin.credential

theorem ofConnectionString_eq_ok_iff (text : String) (given : Option String)
    (blueprint : Blueprint) :
    ofConnectionString text given = .ok blueprint ↔
      ∃ origin : Origin text given, origin.blueprint = blueprint := by
  simp only [ofConnectionString, bind_eq_ok_iff, mapError_eq_ok_iff, entityOf_eq_ok_iff]
  constructor
  · rintro ⟨properties, parsed, name, agreed, credential, described, made⟩
    exact ⟨⟨properties, credential, name, parsed, described, agreed⟩, Except.ok.inj made⟩
  · rintro ⟨⟨properties, credential, name, parsed, described, agreed⟩, rfl⟩
    exact ⟨properties, parsed, name, agreed, credential, described, rfl⟩

theorem Origin.read {text : String} {given : Option String} (origin : Origin text given) :
    ofConnectionString text given = .ok origin.blueprint :=
  (ofConnectionString_eq_ok_iff text given _).mpr ⟨origin, rfl⟩

theorem blames_ofConnectionString (text : String) (given : Option String) :
    Blames (ofConnectionString text given) :=
  (blames_mapError _).bind fun properties =>
    (blames_entityOf given properties.entityPath).bind fun _ =>
      (blames_mapError properties.credential).bind fun _ _ failed => nomatch failed

theorem hostOf_of_plain {host : String} (trimmed : Text.trim host = host)
    (plain : '/' ∉ host.toList) : hostOf host = host := by
  have unblanked : trimBlank host.toList = host.toList := by
    rw [← Text.toList_trim, trimmed]
  rw [hostOf, unblanked, Text.withoutScheme_of_notMem plain, Text.dropSlashes_of_notMem plain,
    String.ofList_toList]

/-- Both ways of cleaning a host, one after the other, come to the first one alone. -/
theorem hostOf_of_parse {text : String} {properties : Auth.ConnectionString}
    (parsed : Auth.ConnectionString.parse text = .ok properties) :
    hostOf properties.host = properties.host :=
  have describes := Auth.ConnectionString.describes_of_parse parsed
  hostOf_of_plain describes.trim_host describes.hostPlain

theorem named_iff (name : String) : Named name ↔ (Text.trim name).isEmpty = false := by
  rw [← Bool.not_eq_true, Text.isEmpty_trim_iff]
  simp [Named]

section Building

variable {τ : Type} (container platform : String) (outside : Collaborators τ)

/-- What a blueprint comes to under a configuration. -/
def assembled (blueprint : Blueprint) (configuration : Configuration) : Handler τ where
  host := hostOf blueprint.host
  entityName := blueprint.entityName
  entityPath := pathOf blueprint.entityName blueprint.options.subscription
  container := container
  credential := blueprint.credential
  configuration := configuration
  properties := Properties.make platform configuration.userAgent
  outside := outside

theorem build_eq_ok_iff (blueprint : Blueprint) {handler : Handler τ} :
    blueprint.build container platform outside = .ok handler ↔
      hostOf blueprint.host ≠ "" ∧ Named blueprint.entityName ∧
        ∃ configuration,
          Configuration.ofOptions (hostOf blueprint.host) blueprint.options = .ok configuration ∧
          blueprint.assembled container platform outside configuration = handler := by
  rw [build, named_iff, ne_eq, ← String.isEmpty_iff, Bool.not_eq_true]
  cases (hostOf blueprint.host).isEmpty with
  | true => simp
  | false =>
    cases (Text.trim blueprint.entityName).isEmpty with
    | true => simp
    | false =>
      simp only [Bool.false_eq_true, if_false, bind_eq_ok_iff, true_and]
      simp only [pure, Except.pure, Except.ok.injEq, assembled]

theorem blames_build {blueprint : Blueprint}
    (sound : Blames (Configuration.ofOptions (hostOf blueprint.host) blueprint.options)) :
    Blames (blueprint.build container platform outside) := by
  unfold build
  dsimp only
  split
  · exact blames_error _
  · split
    · exact blames_error _
    · exact sound.bind fun _ _ failed => nomatch failed

end Building

end Blueprint

namespace Handler

variable {τ : Type}

/-- The handler is the one that a connection string and a name stand for. -/
structure Represents (handler : Handler τ) {text : String} {given : Option String}
    (origin : Blueprint.Origin text given) : Prop where
  describes : origin.properties.Describes text
  host : handler.host = origin.properties.host
  entityName : handler.entityName = origin.name
  entityPath : handler.entityPath = origin.name
  authUri : handler.authUri = "sb://" ++ origin.properties.host ++ "/" ++ origin.name
  managementTarget : handler.managementTarget = origin.name ++ "/$management"
  credential : handler.credential = origin.credential
  entitles : Auth.ConnectionString.Entitles text handler.credential

/-- Makes a handler from a connection string and a name for the entity, with default options. -/
def ofConnectionString (text : String) (given : Option String) (container platform : String)
    (outside : Collaborators τ) : Except Fault (Handler τ) :=
  Blueprint.ofConnectionString text given >>= (·.build container platform outside)

section Origins

variable {text : String} {given : Option String} (container platform : String)
  (outside : Collaborators τ)

theorem ofConnectionString_origin (origin : Blueprint.Origin text given) {handler : Handler τ} :
    ofConnectionString text given container platform outside = .ok handler ↔
      Blueprint.Named origin.name ∧ ∃ configuration,
        Configuration.ofOptions origin.properties.host origin.blueprint.options =
          .ok configuration ∧
        origin.blueprint.assembled container platform outside configuration = handler := by
  have host : Blueprint.hostOf origin.blueprint.host = origin.properties.host :=
    Blueprint.hostOf_of_parse origin.parsed
  have hostSome := (Auth.ConnectionString.describes_of_parse origin.parsed).hostSome
  simp only [ofConnectionString, bind_eq_ok_iff, origin.read, Except.ok.injEq, exists_eq_left']
  rw [Blueprint.build_eq_ok_iff, host]
  exact and_iff_right hostSome

theorem represents_assembled (origin : Blueprint.Origin text given)
    (configuration : Configuration) :
    (origin.blueprint.assembled container platform outside configuration).Represents origin := by
  have host := Blueprint.hostOf_of_parse origin.parsed
  exact
    { describes := Auth.ConnectionString.describes_of_parse origin.parsed
      host := host
      entityName := rfl
      entityPath := rfl
      authUri := congrArg (fun host => "sb://" ++ host ++ "/" ++ origin.name) host
      managementTarget := rfl
      credential := rfl
      entitles :=
        (Auth.ConnectionString.credential_eq_ok_iff origin.parsed _).mp origin.described }

end Origins

/-- A handler is made exactly if what a connection string says and the name that the caller gives
come to an entity with a name. It is the handler that they stand for, and any failure is blamed on
an argument. -/
theorem ofConnectionString_account (text : String) (given : Option String)
    (container platform : String) (outside : Collaborators τ) :
    ((∃ handler, ofConnectionString text given container platform outside = .ok handler) ↔
      ∃ origin : Blueprint.Origin text given, Blueprint.Named origin.name) ∧
    (∀ handler, ofConnectionString text given container platform outside = .ok handler →
      ∀ origin : Blueprint.Origin text given, handler.Represents origin) ∧
    (∀ fault, ofConnectionString text given container platform outside = .error fault →
      ∃ message, fault = .invalidArgument message) ∧
    ∀ properties, Auth.ConnectionString.parse text = .ok properties →
      Blueprint.hostOf properties.host = properties.host := by
  refine ⟨⟨?_, ?_⟩, ?_, ?_, fun _ => Blueprint.hostOf_of_parse⟩
  · rintro ⟨handler, made⟩
    obtain ⟨_, read, _⟩ := bind_eq_ok_iff.mp made
    obtain ⟨origin, _⟩ := (Blueprint.ofConnectionString_eq_ok_iff _ _ _).mp read
    exact ⟨origin, ((ofConnectionString_origin _ _ _ origin).mp made).1⟩
  · rintro ⟨origin, named⟩
    obtain ⟨configuration, configured⟩ :=
      Configuration.ofOptions_default origin.properties.host
    exact ⟨_, (ofConnectionString_origin _ _ _ origin).mpr ⟨named, configuration, configured, rfl⟩⟩
  · intro handler made origin
    obtain ⟨_, configuration, _, rfl⟩ := (ofConnectionString_origin _ _ _ origin).mp made
    exact represents_assembled container platform outside origin configuration
  · intro fault failed
    rcases bind_eq_error_iff.mp failed with unread | ⟨blueprint, read, unbuilt⟩
    · exact Blueprint.blames_ofConnectionString text given fault unread
    · obtain ⟨origin, rfl⟩ := (Blueprint.ofConnectionString_eq_ok_iff _ _ _).mp read
      obtain ⟨configuration, configured⟩ := Configuration.ofOptions_default _
      have sound : Blueprint.Blames (Configuration.ofOptions
          (Blueprint.hostOf origin.blueprint.host) origin.blueprint.options) :=
        fun _ refused => nomatch configured.symm.trans refused
      exact Blueprint.blames_build container platform outside sound fault unbuilt

def spacedHost : String :=
  "Endpoint=sb:// space.example //x/;SharedAccessKeyName=p;SharedAccessKey=k;EntityPath=q"

def spacedOrigin : Blueprint.Origin spacedHost none where
  properties :=
    ⟨"sb:// space.example //x/", "space.example", some "p", some "k", none, some "q"⟩
  credential := .sharedKey "p" "k" 3600
  name := "q"
  parsed := by decide
  described := rfl
  agreed := ⟨.inr rfl, by simp, by simp⟩

/-- Its handler without a name of the caller, and its refusal under another name. -/
theorem ofConnectionString_account_spacedHost :
    let make (given : Option String) :=
      ofConnectionString spacedHost given "container" "platform" (Rehearsal.collaborators 0)
    (∃ handler, make none = .ok handler ∧ handler.host = "space.example" ∧
      handler.authUri = "sb://space.example/q" ∧ handler.managementTarget = "q/$management" ∧
      handler.credential = .sharedKey "p" "k" 3600) ∧
    ∃ message, make (some "r") = .error (.invalidArgument message) := by
  intro make
  have account (given : Option String) := ofConnectionString_account spacedHost given "container"
    "platform" (Rehearsal.collaborators 0)
  constructor
  · obtain ⟨handler, made⟩ := (account none).1.mpr ⟨spacedOrigin, 'q', by decide, rfl⟩
    have represents := (account none).2.1 handler made spacedOrigin
    exact ⟨handler, made, represents.host, represents.authUri, represents.managementTarget,
      represents.credential⟩
  · cases made : make (some "r") with
    | error fault =>
      obtain ⟨message, rfl⟩ := (account (some "r")).2.2.1 fault made
      exact ⟨message, rfl⟩
    | ok handler =>
      -- The two names would have to be one.
      obtain ⟨origin, _⟩ := (account (some "r")).1.mp ⟨handler, made⟩
      obtain ⟨_, caller, path⟩ := origin.agreed
      rw [← Except.ok.inj (spacedOrigin.parsed.symm.trans origin.parsed)] at path
      exact absurd ((caller "r" rfl).trans (path "q" rfl).symm) (by decide)

end Handler
end BusLink
