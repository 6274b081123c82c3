import BusLink.Auth.Signature
import BusLink.Fault.Basic
import BusLink.Text.Quoted

set_option autoImplicit false

namespace BusLink.Auth

/-- A policy name and its key, which only change together. -/
structure KeyPair where
  policy : String
  key : String
deriving DecidableEq, Repr

/-- The rotatable secrets by slot. -/
structure Vault where
  keyPair : Nat → KeyPair
  signature : Nat → String

namespace Vault

def blank : Vault :=
  ⟨fun _ => ⟨"", ""⟩, fun _ => ""⟩

def rotate (vault : Vault) (slot : Nat) (keyPair : KeyPair) : Vault :=
  { vault with keyPair := fun index => if index = slot then keyPair else vault.keyPair index }

def replace (vault : Vault) (slot : Nat) (signature : String) : Vault :=
  { vault with signature := fun index => if index = slot then signature else vault.signature index }

@[simp] theorem keyPair_rotate (vault : Vault) (slot index : Nat) (keyPair : KeyPair) :
    (vault.rotate slot keyPair).keyPair index =
      if index = slot then keyPair else vault.keyPair index :=
  rfl

@[simp] theorem signature_rotate (vault : Vault) (slot : Nat) (keyPair : KeyPair) :
    (vault.rotate slot keyPair).signature = vault.signature :=
  rfl

@[simp] theorem signature_replace (vault : Vault) (slot index : Nat) (signature : String) :
    (vault.replace slot signature).signature index =
      if index = slot then signature else vault.signature index :=
  rfl

@[simp] theorem keyPair_replace (vault : Vault) (slot : Nat) (signature : String) :
    (vault.replace slot signature).keyPair = vault.keyPair :=
  rfl

end Vault

/-- Anything a handler can authenticate with. -/
inductive Credential where
  | sharedToken (token : String) (expiresOn : Int)
  -- A policy and its key, which sign a fresh token for every request.
  | sharedKey (policy key : String) (lifetime : Int)
  -- The slot of a rotatable key pair.
  | namedKey (slot : Nat)
  | signature (slot : Nat)
  | external
deriving DecidableEq, Repr

namespace Credential

/-- The type under which a token is presented. -/
def tokenType : Credential → String
  | .external => "jwt"
  | _ => "servicebus.windows.net:sastoken"

def kindName : Credential → String
  | .sharedToken .. => "SharedAccessToken"
  | .sharedKey .. => "SharedKey"
  | .namedKey _ => "NamedKey"
  | .signature _ => "Sas"
  | .external => "External"

/-- What diagnostics show of a credential, which is never a secret. -/
def describe (credential : Credential) : String :=
  "ServiceBusCredential(" ++ Text.quoted credential.kindName ++ ")"

/-- The first scope, for which a token is signed. -/
def audience (scopes : List String) : Except Fault String :=
  match scopes with
  | [] => .error (.invalidArgument "No token scope provided.")
  | scope :: _ => .ok scope

/-- A ready made signature as a token, if it names its expiry. -/
def ofSignature (signature : String) : Except Fault AccessToken :=
  match Signature.expiry? signature with
  | none => .error (.invalidArgument "SAS signature does not contain an 'se' expiry field.")
  | some expiresOn => .ok ⟨signature, expiresOn⟩

/-- A token for the first of the scopes. Only an external credential asks the source outside, whose
state is threaded through. -/
def token {ρ : Type} (credential : Credential) (vault : Vault) (now : Int) (scopes : List String)
    (source : List String → StateM ρ (Except Fault AccessToken)) :
    StateM ρ (Except Fault AccessToken) :=
  match credential with
  | .sharedToken token expiresOn => pure (.ok ⟨token, expiresOn⟩)
  | .sharedKey policy key lifetime =>
    pure ((audience scopes).map fun scope => Signature.issue scope policy key now lifetime)
  | .namedKey slot =>
    let pair := vault.keyPair slot
    pure ((audience scopes).map fun scope =>
      Signature.issue scope pair.policy pair.key now Signature.defaultLifetime)
  | .signature slot => pure (ofSignature (vault.signature slot))
  | .external => source scopes

end Credential

def AccessToken.describe (token : AccessToken) : String :=
  Text.record "AccessToken"
    [Text.field "token" (Text.quoted "<redacted>"),
      Text.field "expires_on" (String.ofList (Numeral.integer token.expiresOn))]

end BusLink.Auth
