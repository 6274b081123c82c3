import BusLink.Auth.Credential

set_option autoImplicit false

namespace BusLink.Auth

structure ConnectionString where
  endpoint : String
  host : String
  keyName : Option String
  key : Option String
  signature : Option String
  entityPath : Option String
deriving DecidableEq, Repr

namespace ConnectionString

inductive Flaw where
  | malformed
  | badEndpoint
  | keyAndSignature
  | neitherKeyNorSignature
  | halfKey
deriving DecidableEq, Repr

def Flaw.message : Flaw → String
  | .malformed => "Connection string is either blank or malformed."
  | .badEndpoint => "Invalid Endpoint on the Connection String."
  | .keyAndSignature =>
    "Only one of the SharedAccessKeyName or SharedAccessSignature must be present."
  | .neitherKeyNorSignature =>
    "At least one of the SharedAccessKeyName or SharedAccessSignature must be present."
  | .halfKey => "Connection string must have both SharedAccessKeyName and SharedAccessKey."

def Flaw.fault (flaw : Flaw) : Fault :=
  .invalidArgument flaw.message

structure Segment where
  key : String
  value : String
deriving DecidableEq, Repr

/-- The segment of a text with an equals sign; blanks around key and value do not count. -/
def Segment.read? (characters : List Char) : Option Segment :=
  (Text.cutAt '=' characters).map fun (key, value) =>
    ⟨String.ofList ((Text.trimBlank key).map Char.toLower), String.ofList (Text.trimBlank value)⟩

/-- The segments of a text; `none` if one that is not blank has no equals sign. -/
def segments? (text : String) : Option (List Segment) :=
  let parts := (Text.pieces (· = ';') text.toList).map Text.trimBlank
  (parts.filter (!·.isEmpty)).mapM Segment.read?

def lastValue? (key : String) (segments : List Segment) : Option String :=
  (segments.reverse.find? (·.key = key)).map Segment.value

/-- The host of an endpoint: from the double slash to the next slash, without blanks around it. -/
def hostOf (endpoint : String) : String :=
  String.ofList
    (Text.trimBlank ((Text.pieces (· = '/') (Text.withoutScheme endpoint.toList)).headD []))

def ofSegments (segments : List Segment) : Except Flaw ConnectionString :=
  match lastValue? "endpoint" segments with
  | none => .error .malformed
  | some endpoint =>
    if !Text.occursIn "://".toList endpoint.toList || (hostOf endpoint).isEmpty then
      .error .badEndpoint
    else
      let keyName := lastValue? "sharedaccesskeyname" segments
      let key := lastValue? "sharedaccesskey" segments
      let signature := lastValue? "sharedaccesssignature" segments
      let entityPath := lastValue? "entitypath" segments
      match keyName.isSome || key.isSome, signature.isSome with
      | true, true => .error .keyAndSignature
      | false, false => .error .neitherKeyNorSignature
      | hasKey, _ =>
        if hasKey && !(keyName.isSome && key.isSome) then .error .halfKey
        else .ok { endpoint, keyName, key, signature
                   host := hostOf endpoint
                   entityPath := entityPath.filter (!·.isEmpty) }

def parse (text : String) : Except Flaw ConnectionString :=
  match segments? text with
  | none => .error .malformed
  | some segments => ofSegments segments

def credential (properties : ConnectionString) : Except Flaw Credential :=
  match properties.signature, properties.keyName, properties.key with
  | some signature, _, _ =>
    match Signature.expiry? signature with
    | none => .error .malformed
    | some expiresOn => .ok (.sharedToken signature expiresOn)
  | none, some keyName, some key => .ok (.sharedKey keyName key Signature.defaultLifetime)
  | none, _, _ => .error .halfKey

/-- What diagnostics show of a connection string: everything but its secrets. -/
def describe (properties : ConnectionString) : String :=
  Text.record "ConnectionStringProperties"
    [Text.field "endpoint" (Text.quoted properties.endpoint),
      Text.field "fully_qualified_namespace" (Text.quoted properties.host),
      Text.field "shared_access_key_name" (Text.quotedOption properties.keyName),
      Text.field "entity_path" (Text.quotedOption properties.entityPath), ".."]

end ConnectionString
end BusLink.Auth
