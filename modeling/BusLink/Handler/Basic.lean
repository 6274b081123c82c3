import BusLink.Auth.ConnectionString
import BusLink.Fault.Classify
import BusLink.Note
import BusLink.Text.Hex

set_option autoImplicit false

namespace BusLink

/-- What a handler needs from outside, over an outside state `τ`. Everything but the three
exchanges with the outside has a standard form. -/
structure Collaborators (τ : Type) where
  clock : Clock
  -- Sets up a link; the answer is the name of the link, if it has one.
  createLink : LinkRequest → Activity Empty τ (Except Fault (Option String))
  closeLink : Link → Activity Empty τ (Except Fault Unit)
  request : Link → Request → Call → Activity Empty τ (Except Fault Response)
  -- The second of the wall clock at an instant.
  wallClock : Nat → Int
  address : Message → Json.Members → Configuration → String → Request :=
    fun message added _ replyTo => message.address added replyTo
  classify : Option String → Fault → Fault := Fault.classify
  linkName : Link → Option String := Link.name
  isTimeout : Fault → Bool := Fault.isRawTimeout

structure Handler (τ : Type) where
  -- The fully qualified namespace, without scheme and slashes at its end.
  host : String
  entityName : String
  entityPath : String
  container : String
  credential : Auth.Credential
  configuration : Configuration
  properties : Properties
  outside : Collaborators τ

/-- The changing part of a handler. -/
structure Handler.State (τ : Type) where
  link : Option Link := none
  running : Bool := false
  shutdown : Bool := false
  session : Option Session := none
  opened : Nat := 0
  outside : τ

structure Blueprint where
  -- The namespace as the user writes it, with or without a scheme.
  host : String
  entityName : String
  credential : Auth.Credential
  options : Options := {}

namespace Blueprint

/-- The namespace without blanks, scheme and slashes at its end. -/
def hostOf (written : String) : String :=
  String.ofList (Text.dropEndWhile (· = '/') (Text.withoutScheme (Text.trimBlank written.toList)))

/-- What stands between an entity and the name of its subscription. -/
def subscriptionMark : String := "/Subscriptions/"

/-- The path of an entity, or of a subscription of it that is not blank. -/
def pathOf (entityName : String) : Option String → String
  | none => entityName
  | some subscription =>
    if subscription.isEmpty then entityName else entityName ++ subscriptionMark ++ subscription

/-- The entity that a name and a connection string agree on. -/
def entityOf (given named : Option String) : Except Fault String :=
  match given, named with
  | some given, some named =>
    if given = named then .ok given
    else .error (.invalidArgument
      "The entity name provided does not match the EntityPath in the connection string.")
  | some given, none => .ok given
  | none, some named => .ok named
  | none, none => .error (.invalidArgument
      "An entity name is required when the connection string has no EntityPath.")

def ofConnectionString (text : String) (entityName : Option String) : Except Fault Blueprint := do
  let properties ← (Auth.ConnectionString.parse text).mapError Auth.ConnectionString.Flaw.fault
  let entityName ← entityOf entityName properties.entityPath
  let credential ← properties.credential.mapError Auth.ConnectionString.Flaw.fault
  return { host := properties.host, entityName, credential }

def build {τ : Type} (blueprint : Blueprint) (container platform : String)
    (outside : Collaborators τ) : Except Fault (Handler τ) := do
  let host := hostOf blueprint.host
  if host.isEmpty then
    .error (.invalidArgument "fully_qualified_namespace must not be empty")
  else if (Text.trim blueprint.entityName).isEmpty then
    .error (.invalidArgument "entity_name must not be empty")
  else
    let configuration ← Configuration.ofOptions host blueprint.options
    return {
      host, configuration, container, outside
      entityName := blueprint.entityName
      entityPath := pathOf blueprint.entityName blueprint.options.subscription
      credential := blueprint.credential
      properties := Properties.make platform configuration.userAgent }

end Blueprint

namespace Handler

variable {τ : Type}

def containerStart : String := "servicebus.rs-"

def containerDigits : Nat := 8

def containerName (number : Nat) : String :=
  containerStart ++ String.ofList (Text.hexDigits containerDigits number)

def managementEnd : String := "/$management"

def managementTarget (handler : Handler τ) : String :=
  handler.entityPath ++ managementEnd

def authUri (handler : Handler τ) : String :=
  "sb://" ++ handler.host ++ "/" ++ handler.entityPath

def linkRequest (handler : Handler τ) (session : Option Session) : LinkRequest where
  container := handler.container
  host := handler.host
  entityPath := handler.entityPath
  authUri := handler.authUri
  credential := handler.credential
  configuration := handler.configuration
  properties := handler.properties
  session := session

def describe (handler : Handler τ) (state : State τ) : String :=
  let kind := match state.session with
    | none => "Entity"
    | some session => "Session(" ++ session.describe ++ ")"
  Text.record "BaseHandler"
    [Text.field "container_id" (Text.quoted handler.container),
      Text.field "fully_qualified_namespace" (Text.quoted handler.host),
      Text.field "entity_path" (Text.quoted handler.entityPath), Text.field "kind" kind,
      Text.field "running" (Text.flag state.running),
      Text.field "shutdown" (Text.flag state.shutdown), ".."]

def initial (session : Option Session) (outside : τ) : State τ :=
  { session, outside }

end Handler
end BusLink
