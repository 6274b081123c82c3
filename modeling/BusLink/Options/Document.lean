import BusLink.Json.Value
import BusLink.Options.Basic

set_option autoImplicit false

namespace BusLink.Options

/-- The options by name. -/
inductive Field where
  | transport
  | retries
  | retryMode
  | waitUnit
  | longestWait
  | encoding
  | userAgent
  | customEndpoint
  | subscription
deriving DecidableEq, Repr

namespace Field

def all : List Field :=
  [.transport, .retries, .retryMode, .waitUnit, .longestWait, .encoding, .userAgent,
    .customEndpoint, .subscription]

def name : Field → String
  | .transport => "transport_type"
  | .retries => "retry_total"
  | .retryMode => "retry_mode"
  | .waitUnit => "retry_backoff_factor"
  | .longestWait => "retry_backoff_max"
  | .encoding => "encoding"
  | .userAgent => "user_agent"
  | .customEndpoint => "custom_endpoint_address"
  | .subscription => "subscription_name"

def ofName? (name : String) : Option Field :=
  all.find? (·.name = name)

theorem ofName?_name (field : Field) : ofName? field.name = some field := by
  cases field <;> rfl

end Field

open Json (Tree Quoted)

/-- One of several names, as a string or as the only key of an object whose value is null. -/
def choice? {α : Type} (ofName? : String → Option α) : Tree → Option α
  | .text quoted => Quoted.text? quoted >>= ofName?
  | .object [(quoted, .null)] => Quoted.text? quoted >>= ofName?
  | _ => none

/-- A word of thirty-two bits, written as a whole number without sign, fraction or exponent. -/
def word? : Tree → Option UInt32
  | .number literal =>
    match literal.number? with
    | some (.integer value) =>
      if 0 ≤ value ∧ value < Nat.pow 2 32 then some (UInt32.ofNat value.toNat) else none
    | _ => none
  | _ => none

/-- A double, written as any number. -/
def binary64? : Tree → Option Binary64
  | .number literal =>
    match literal.number? with
    | some (.integer value) => some (Binary64.ofRatio (value < 0) value.natAbs 1)
    | some (.real value) => some value
    | none => none
  | _ => none

def text? : Tree → Option String
  | .text quoted => Quoted.text? quoted
  | _ => none

def optionalText? : Tree → Option (Option String)
  | .null => some none
  | tree => (text? tree).map some

/-- Options with one of them read from a document. -/
def put? (options : Options) (field : Field) (tree : Tree) : Option Options :=
  match field with
  | .transport => (choice? Transport.ofName? tree).map ({ options with transport := · })
  | .retries => (word? tree).map ({ options with retries := · })
  | .retryMode => (choice? Retry.Mode.ofName? tree).map ({ options with retryMode := · })
  | .waitUnit => (binary64? tree).map ({ options with waitUnit := · })
  | .longestWait => (binary64? tree).map ({ options with longestWait := · })
  | .encoding => (text? tree).map ({ options with encoding := · })
  | .userAgent => (optionalText? tree).map ({ options with userAgent := · })
  | .customEndpoint => (optionalText? tree).map ({ options with customEndpoint := · })
  | .subscription => (optionalText? tree).map ({ options with subscription := · })

/-- Reads members one by one, with the options met so far. -/
def ofMembers? (options : Options) (met : List Field) : List (Quoted × Tree) → Option Options
  | [] => some options
  | (quoted, tree) :: rest => do
    let key ← Quoted.text? quoted
    match Field.ofName? key with
    | none => ofMembers? options met rest
    | some field =>
      if field ∈ met then none
      else
        let options ← options.put? field tree
        ofMembers? options (field :: met) rest

def ofItems? (options : Options) : List Field → List Tree → Option Options
  | _, [] => some options
  | [], _ :: _ => none
  | field :: fields, tree :: rest => do
    let options ← options.put? field tree
    ofItems? options fields rest

/-- The options that a written document gives. -/
def ofTree? : Tree → Option Options
  | .object members => ofMembers? {} [] members
  | .list items => ofItems? {} Field.all items
  | _ => none

def read? (content : String) : Option Options :=
  Tree.read? content.toList >>= ofTree?

def optionalJson : Option String → Json
  | none => .null
  | some value => .text value

def members (options : Options) : Json.Members :=
  [(Field.transport.name, .text options.transport.name),
    (Field.retries.name, .number (.integer options.retries.toNat)),
    (Field.retryMode.name, .text options.retryMode.name),
    (Field.waitUnit.name, .number (.real options.waitUnit)),
    (Field.longestWait.name, .number (.real options.longestWait)),
    (Field.encoding.name, .text options.encoding),
    (Field.userAgent.name, optionalJson options.userAgent),
    (Field.customEndpoint.name, optionalJson options.customEndpoint),
    (Field.subscription.name, optionalJson options.subscription)]

/-- The document that gives all options. -/
def document (options : Options) : Json :=
  .object options.members

/-- Equality of options, doubles compared by value. -/
def same (left right : Options) : Bool :=
  left.waitUnit.sameValue right.waitUnit && left.longestWait.sameValue right.longestWait &&
    decide ({ left with waitUnit := Binary64.zero, longestWait := Binary64.zero } =
      { right with waitUnit := Binary64.zero, longestWait := Binary64.zero })

end BusLink.Options
